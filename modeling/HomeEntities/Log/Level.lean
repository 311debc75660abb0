/-!
# Log levels and filters

A filter has a default level and overrides for targets, one for each. The longest override that
begins the target decides; the default decides if none does.

* `LogFilter.withOverride`: a filter with an override more.
* `LogFilter.wouldEnable`: whether an event is kept.
-/

namespace HomeEntities

/-- How much a log event matters, the least first. -/
inductive Level where
  | trace | debug | info | warn | error
deriving Repr, DecidableEq

namespace Level

def all : List Level := [trace, debug, info, warn, error]

def name : Level → String
  | trace => "trace"
  | debug => "debug"
  | info => "info"
  | warn => "warn"
  | error => "error"

/-- The name of a level in front of a logged message. -/
def label : Level → String
  | trace => "TRACE"
  | debug => "DEBUG"
  | info => "INFO"
  | warn => "WARN"
  | error => "ERROR"

/-- The level of a name. -/
def ofName? (s : String) : Option Level := all.find? (·.name == s)

/-- The rank of a level. -/
def rank : Level → Nat
  | trace => 0
  | debug => 1
  | info => 2
  | warn => 3
  | error => 4

end Level

/-- Which log events are kept. No target has two overrides. -/
structure LogFilter where
  level : Level := .info
  overrides : List (String × Level) := []
  distinct : (overrides.map Prod.fst).Nodup := by exact List.nodup_nil
deriving Repr

namespace LogFilter

/-- The filter with an override more, which takes the place of one for the same target. -/
def withOverride (filter : LogFilter) (target : String) (least : Level) : LogFilter where
  level := filter.level
  overrides := filter.overrides.filter (·.1 != target) ++ [(target, least)]
  distinct := by
    rw [List.map_append, List.nodup_append]
    refine ⟨filter.distinct.sublist (List.filter_sublist.map Prod.fst), by simp, ?_⟩
    intro key hkey key' hkey'
    obtain ⟨o, ho, rfl⟩ := List.mem_map.mp hkey
    obtain rfl : key' = target := by simpa using hkey'
    simpa using (List.mem_filter.mp ho).2

/-- The filter of a default level and overrides, of which the last for a target counts. -/
def ofOverrides (level : Level) (overrides : List (String × Level)) : LogFilter :=
  overrides.foldl (fun filter o => filter.withOverride o.1 o.2) { level }

/-- The longest override that begins a target. -/
def override? (target : String) : List (String × Level) → Option (String × Level)
  | [] => none
  | o :: rest =>
    if o.1.toList.isPrefixOf target.toList then
      match override? target rest with
      | some best => if best.1.length < o.1.length then some o else some best
      | none => some o
    else override? target rest

/-- The least level that is kept for a target. -/
def levelFor (filter : LogFilter) (target : String) : Level :=
  match override? target filter.overrides with
  | some (_, level) => level
  | none => filter.level

/-- Whether an event of a level is kept for a target. -/
def wouldEnable (filter : LogFilter) (target : String) (level : Level) : Bool :=
  (filter.levelFor target).rank ≤ level.rank

end LogFilter

end HomeEntities
