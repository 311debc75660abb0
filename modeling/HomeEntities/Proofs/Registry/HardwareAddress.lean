import HomeEntities.Proofs.Registry.UniqueId
import HomeEntities.Proofs.Text.CaseMapping

/-! # Hardware addresses

A normalized address has no colon (`colon_notMem_normalizeMac`) and consists of capitals, so it is
normal already (`normalizeMac_normalizeMac`), whatever characters it was made of. Addresses that
differ only in colons and in the case of ASCII letters (`SameAddress`) have one normal form, hence
lights that carry them one unique id. -/

namespace HomeEntities

theorem mem_normalizeMac {mac : String} {d : Char} : d ∈ (normalizeMac mac).toList ↔
    ∃ c ∈ mac.toList, c ≠ ':' ∧ d ∈ Text.uppercase c := by
  simp [normalizeMac, and_assoc]

theorem colon_notMem_normalizeMac (mac : String) : ':' ∉ (normalizeMac mac).toList := by
  intro h
  obtain ⟨c, -, hne, hcolon⟩ := mem_normalizeMac.mp h
  exact hne (Text.eq_of_mem_uppercase (by decide +kernel) hcolon)

/-- **A normalized address is normal.** -/
theorem normalizeMac_normalizeMac (mac : String) :
    normalizeMac (normalizeMac mac) = normalizeMac mac := by
  have hfilter : (normalizeMac mac).toList.filter (· != ':') = (normalizeMac mac).toList := by
    refine List.filter_eq_self.mpr fun c hc => ?_
    have hne : c ≠ ':' := fun h => colon_notMem_normalizeMac mac (h ▸ hc)
    simpa using hne
  have hcapitals : ∀ d ∈ (normalizeMac mac).toList, Text.uppercase d = [d] := by
    intro d hd
    obtain ⟨c, -, -, hcapital⟩ := mem_normalizeMac.mp hd
    exact Text.uppercase_of_mem hcapital
  conv_lhs => rw [normalizeMac]
  rw [hfilter, List.flatMap_congr hcapitals, List.flatMap_singleton', String.ofList_toList]

/-! ### Spellings of one address -/

/-- Two addresses that differ only in colons and in the case of ASCII letters. -/
def SameAddress (mac mac' : String) : Prop :=
  (mac.toList.filter (· != ':')).map Char.toUpper = (mac'.toList.filter (· != ':')).map Char.toUpper

instance (mac mac' : String) : Decidable (SameAddress mac mac') :=
  inferInstanceAs (Decidable (_ = _))

theorem SameAddress.normalizeMac_eq {mac mac' : String} (h : SameAddress mac mac') :
    normalizeMac mac = normalizeMac mac' := by
  have hcapitals : ∀ cs : List Char,
      cs.flatMap Text.uppercase = (cs.map Char.toUpper).flatMap Text.uppercase := by
    intro cs
    rw [List.flatMap_map]
    exact List.flatMap_congr fun c _ => (Text.uppercase_toUpper c).symm
  unfold normalizeMac
  rw [hcapitals, h, ← hcapitals]

/-- A request for a light that is filed under its hardware address, as all are but those of legacy
dimmers. -/
structure Request.IsAddressed (r : Request) : Prop where
  feature : r.feature = none
  fixedId : r.fixedId = none
  platform : r.platform = .light
  modern : ¬ (r.device.type = .dimmer ∧ r.device.isLegacy = true)

theorem Request.IsAddressed.uniqueId_eq {r : Request} (h : r.IsAddressed)
    (legacyId : Device → String) : r.uniqueId legacyId = .ok (normalizeMac r.device.mac) := by
  have hmodern : ¬ (r.device.type == .dimmer && r.device.isLegacy) = true := by
    simpa using h.modern
  simp only [uniqueId, h.feature, h.fixedId, h.platform, beq_self_eq_true, if_true, if_neg hmodern]

/-- **Normal form of hardware addresses.** Normalizing an address once more changes nothing, and a
normal address has no colon. So two addresses that differ only in colons and in the case of ASCII
letters give lights one unique id, on all devices but legacy dimmers. -/
theorem normalizeMac_isNormal (mac : String) :
    normalizeMac (normalizeMac mac) = normalizeMac mac ∧
    ':' ∉ (normalizeMac mac).toList ∧
    ∀ (legacyId : Device → String) (r r' : Request), r.IsAddressed → r'.IsAddressed →
      r.device.mac = mac → SameAddress mac r'.device.mac →
      r.uniqueId legacyId = .ok (normalizeMac mac) ∧
      r'.uniqueId legacyId = .ok (normalizeMac mac) := by
  refine ⟨normalizeMac_normalizeMac mac, colon_notMem_normalizeMac mac, ?_⟩
  intro legacyId r r' hr hr' hmac hsame
  rw [hr.uniqueId_eq, hr'.uniqueId_eq, hmac, hsame.normalizeMac_eq]
  exact ⟨rfl, rfl⟩

/-- The request for the light of a bulb with a hardware address. -/
def bulbRequest (mac : String) : Request where
  platform := .light
  device := { id := "8012", name := "Desk", model := "L530", mac := mac, type := .bulb }

theorem bulbRequest_isAddressed (mac : String) : (bulbRequest mac).IsAddressed where
  feature := rfl
  fixedId := rfl
  platform := rfl
  modern := by
    rintro ⟨h, -⟩
    cases h

theorem normalizeMac_isNormal_spellings :
    SameAddress "50:c7:bf:aa:0b:1d" "50C7:BFaa0B1D" ∧
    (bulbRequest "50:c7:bf:aa:0b:1d").uniqueId Device.legacyId = .ok "50C7BFAA0B1D" ∧
    (bulbRequest "50C7:BFaa0B1D").uniqueId Device.legacyId = .ok "50C7BFAA0B1D" := by
  have hsame : SameAddress "50:c7:bf:aa:0b:1d" "50C7:BFaa0B1D" := by decide
  have hnormal : normalizeMac "50:c7:bf:aa:0b:1d" = "50C7BFAA0B1D" := by decide
  obtain ⟨-, -, hlights⟩ := normalizeMac_isNormal "50:c7:bf:aa:0b:1d"
  have hids := hlights Device.legacyId _ _ (bulbRequest_isAddressed "50:c7:bf:aa:0b:1d")
    (bulbRequest_isAddressed "50C7:BFaa0B1D") rfl hsame
  rw [hnormal] at hids
  exact ⟨hsame, hids⟩

end HomeEntities
