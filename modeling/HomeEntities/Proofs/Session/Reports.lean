import HomeEntities.Proofs.Session.Protocol
import HomeEntities.Proofs.Text.Template

/-! # Reports of failures

The template of a notice has two marks, each in one place (`Failure.cut_template`), and the name of
no action has a brace (`brace_notMem_func`), so that putting it in makes no further mark. The text
of the failure comes last and is not searched. So a report says what the template says around its
marks, with the name of the action and the text of the failure as they are in between
(`Failure.words_fill`), whatever that text is. -/

namespace HomeEntities

/-! ### The words of a notice -/

/-- A message is the template of a notice with the name of an action in the one place of its mark
and a text in the one place of the other; the rest of the template is as it was. -/
def Notice.Words (notice : Notice) (func text message : String) : Prop :=
  ∃ before between after,
    Text.StandsOnce funcMark before (between ++ excMark ++ after) notice.template ∧
    Text.StandsOnce excMark (before ++ funcMark ++ between) after notice.template ∧
    message = before ++ func ++ between ++ text ++ after

/-- **Templates** have the two marks in one place each, and no brace before them. -/
theorem Failure.cut_template (failure : Failure) : ∃ before : String, '{' ∉ before.toList ∧
    Text.StandsOnce funcMark before (": " ++ excMark ++ "") failure.notice.template ∧
    Text.StandsOnce excMark (before ++ funcMark ++ ": ") "" failure.notice.template := by
  cases failure with
  | authentication =>
    exact ⟨"Device authentication error ", by decide, ⟨by decide, by decide⟩, by decide, by decide⟩
  | timeout =>
    exact ⟨"Timeout communicating with the device ", by decide, ⟨by decide, by decide⟩, by decide,
      by decide⟩
  | device =>
    exact ⟨"Unable to communicate with the device ", by decide, ⟨by decide, by decide⟩, by decide,
      by decide⟩

theorem brace_notMem_func (action : Action) : '{' ∉ action.func.toList := by
  cases action <;> dsimp only [Action.func] <;> decide

/-- **Both marks filled**, first the one for the action. -/
theorem Failure.words_fill (failure : Failure) {func : String} (hfunc : '{' ∉ func.toList)
    (text : String) : failure.notice.Words func text
      (Text.fill excMark text (Text.fill funcMark func failure.notice.template)) := by
  obtain ⟨before, hbefore, hf, he⟩ := failure.cut_template
  refine ⟨before, ": ", "", hf, he, ?_⟩
  rw [hf.fill_eq (by decide) func]
  -- neither what stands before the second mark nor the name put in has a brace of its own
  have hlead : '{' ∉ (before ++ func).toList := by
    rw [String.toList_append, List.mem_append]
    exact not_or.mpr ⟨hbefore, hfunc⟩
  have hnext : Text.StandsOnce excMark (before ++ func ++ ": ") ""
      (before ++ func ++ (": " ++ excMark ++ "")) := by
    refine ⟨by simp only [String.append_assoc], ?_⟩
    rw [String.toList_append]
    exact (Text.occurrences_append_of_notMem hlead _).trans (by decide)
  exact hnext.fill_eq (by decide) text

/-- The report tells of an error in an action in the words of its notice, with the text of the error
as it is. -/
structure Report.Quotes (report : Report) (e : DeviceError) (action : Action) : Prop extends
    report.TellsOf e action where
  message : e.failure.notice.Words action.func e.text report.message

theorem Report.quotes_ofError (e : DeviceError) (action : Action) :
    (Report.ofError action.func e).Quotes e action :=
  ⟨⟨rfl, rfl, rfl, rfl⟩, e.failure.words_fill (brace_notMem_func action) e.text⟩

/-! ### Reports of actions -/

namespace Session

variable {σ : Type} {client : Client σ} {s : Session σ} {i : Nat} {e : Entity}

theorem step_act_of_writes (extras : Extras) (he : s.entities[i]? = some e) {action : Action}
    {planned : List (String × Json)} (hw : e.writes action = some (.ok planned)) :
    (s.step client extras (.act i action)).1 =
      match (s.connection.writeAll client e.deviceId planned).1 with
      | .ok () => .done
      | .error error => .actionError (.device (.ofError action.func error)) := by
  simp only [step, he, Connection.perform, hw, Option.map_some, Connection.writeFeatures]
  rcases s.connection.writeAll client e.deviceId planned with ⟨_ | _, c⟩ <;> rfl

/-- **Errors are reported in their own words.** Whatever the text of an error, the report of it for
an action carries the error and its text as they are, and its message is the template of the notice
with the name of the action and this text in the places of the two marks. If a write of an action
fails, this is what is reported, and no action makes any other report of an error. -/
theorem act_reports (client : Client σ) (extras : Extras) (he : s.entities[i]? = some e)
    (action : Action) :
    (∀ error, (Report.ofError action.func error).Quotes error action) ∧
    (∀ planned error, e.writes action = some (.ok planned) →
      (s.connection.writeAll client e.deviceId planned).1 = .error error →
      ∃ report, (s.step client extras (.act i action)).1 = .actionError (.device report) ∧
        report.Quotes error action) ∧
    ∀ report, (s.step client extras (.act i action)).1 = .actionError (.device report) →
      ∃ planned error, e.writes action = some (.ok planned) ∧
        (s.connection.writeAll client e.deviceId planned).1 = .error error ∧
        report.Quotes error action := by
  refine ⟨fun error => Report.quotes_ofError error action, ?_, ?_⟩
  · intro planned error hw hfails
    refine ⟨_, ?_, Report.quotes_ofError error action⟩
    rw [step_act_of_writes extras he hw, hfails]
  · intro report hreport
    cases hw : e.writes action with
    | none =>
      simp only [step, he, Connection.perform, hw, Option.map_none] at hreport
      cases hreport
    | some checked =>
      cases checked with
      | error refusal =>
        simp only [step, he, Connection.perform, hw, Option.map_some] at hreport
        cases hreport
      | ok planned =>
        rw [step_act_of_writes extras he hw] at hreport
        cases hfails : (s.connection.writeAll client e.deviceId planned).1 with
        | ok => rw [hfails] at hreport; cases hreport
        | error error =>
          rw [hfails] at hreport
          cases hreport
          exact ⟨planned, error, rfl, hfails, Report.quotes_ofError error action⟩

/-! ### A lamp that answers in marks -/

/-- An error with both marks and single braces in its text. -/
def markedError : DeviceError :=
  ⟨.timeout, "no \x7bexc\x7d for \x7bfunc\x7d \x7d\x7b"⟩

/-- The session of the lamp after set-up, with a client that answers every write with the error. -/
def markedSession : Session Client.Faulty :=
  (Session.step Client.faulty {} { connection := {
    client := { root := lamp, writeFault := some (markedError, 0) }
    coordinator := { snapshot := lamp }
    exchanges := [.fetch (.ok lamp)] } } .setUp).2

theorem act_reports_marked :
    ∃ e planned report, markedSession.entities[0]? = some e ∧
      e.writes .turnOn = some (.ok planned) ∧
      (markedSession.connection.writeAll Client.faulty e.deviceId planned).1 =
        .error markedError ∧
      (markedSession.step Client.faulty {} (.act 0 .turnOn)).1 = .actionError (.device report) ∧
      report.Quotes markedError .turnOn ∧
      report.message = "Timeout communicating with the device turn_on: " ++ markedError.text := by
  have hwrites : (markedSession.entities[0]?).map (·.writes .turnOn) =
      some (some (.ok [(stateId, .bool true)])) := rfl
  obtain ⟨e, he, hw⟩ := Option.map_eq_some_iff.mp hwrites
  have hfails : (markedSession.connection.writeAll Client.faulty e.deviceId
      [(stateId, .bool true)]).1 = .error markedError := rfl
  obtain ⟨-, hreports, -⟩ := act_reports Client.faulty {} he .turnOn
  obtain ⟨report, hreport, hquotes⟩ := hreports _ _ hw hfails
  refine ⟨e, _, report, he, hw, hfails, hreport, hquotes, ?_⟩
  rw [step_act_of_writes {} he hw, hfails] at hreport
  cases hreport
  decide

end Session

end HomeEntities
