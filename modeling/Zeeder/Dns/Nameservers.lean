import Zeeder.Dns.Name
import Mathlib.Data.Finset.Insert

/-! # Admitting a zone's nameservers

Configuration validation and zone construction each walk over the primary and the additional
nameservers: parse the name, refuse it inside the zone's domain, refuse it a second time. They differ
in their error texts only, so the walk is defined once, with those texts as parameters.

* **`admitNameservers_ok_iff`** — the walk succeeds exactly on `AdmittedNameservers`: all names
  parse, lie outside the domain and are pairwise distinct ignoring case. -/

namespace Zeeder.Dns

namespace HickoryProto

variable (hickory : HickoryProto)

/-- Check one nameserver: outside the domain, and new to the set. -/
def admitNameserver (domain : LowerName) (outOfZone field : String) (seen : Finset LowerName)
    (nameserver : Name) : Result (Finset LowerName) := do
  Result.ensure (!hickory.zoneOf domain (.ofName nameserver)) outOfZone
  Result.ensure (decide (LowerName.ofName nameserver ∉ seen))
    (field ++ " duplicates another nameserver in the zone")
  return insert (LowerName.ofName nameserver) seen

/-- The walk over the nameservers, each with the field it is configured in: parse it under the
error context of that field, check it, and keep it. -/
def admitNameservers (context : String → String → String) (domain : LowerName)
    (outOfZone : String) :
    List (String × String) → List Name → Finset LowerName → Result (List Name)
  | [], names, _ => .ok names
  | (field, text) :: rest, names, seen => do
      let name ← hickory.parseFqdn (context field text) text
      let seen ← hickory.admitNameserver domain outOfZone field seen name
      admitNameservers context domain outOfZone rest (names ++ [name]) seen

/-- **What the walk accepts**, starting from a set of names already seen: the texts parse to the
names, which lie outside the domain, are new and pairwise distinct. -/
structure AdmittedNameservers (domain : LowerName) (seen : Finset LowerName) (texts : List String)
    (names : List Name) : Prop where
  /-- Each text parses to its name. -/
  parsed : List.Forall₂ (fun text name => ∃ parsed : Name,
    hickory.fromAscii text = .ok parsed ∧ parsed.setFqdn true = name) texts names
  /-- No name lies in the domain. -/
  outOfZone : ∀ name ∈ names, hickory.zoneOf domain (.ofName name) = false
  /-- No name was seen before. -/
  fresh : ∀ name ∈ names, LowerName.ofName name ∉ seen
  /-- No two names are the same, ignoring case. -/
  distinct : (names.map LowerName.ofName).Nodup

variable {hickory} {domain : LowerName} {seen : Finset LowerName}

/-- A nameserver is admitted if it is outside the domain and new. -/
theorem admitNameserver_ok_iff {outOfZone field : String} {nameserver : Name}
    {seen' : Finset LowerName} :
    hickory.admitNameserver domain outOfZone field seen nameserver = .ok seen' ↔
      hickory.zoneOf domain (.ofName nameserver) = false ∧ LowerName.ofName nameserver ∉ seen ∧
        insert (LowerName.ofName nameserver) seen = seen' := by
  simp [admitNameserver, Result.bind_ok_iff, pure, Except.pure]

/-- Every configured text parses to a name outside the domain. -/
theorem AdmittedNameservers.outside {texts : List String} {names : List Name}
    (h : hickory.AdmittedNameservers domain seen texts names) {text : String} (htext : text ∈ texts) :
    ∃ parsed, hickory.fromAscii text = .ok parsed ∧
      hickory.zoneOf domain (.ofName (parsed.setFqdn true)) = false := by
  obtain ⟨i, hi, rfl⟩ := List.mem_iff_getElem.mp htext
  have hi' : i < names.length := h.parsed.length_eq ▸ hi
  obtain ⟨parsed, hparsed, hname⟩ := h.parsed.get hi hi'
  refine ⟨parsed, hparsed, ?_⟩
  rw [hname]
  exact h.outOfZone _ (List.getElem_mem hi')

/-- No nameservers are admitted from no texts. -/
theorem admittedNameservers_nil : hickory.AdmittedNameservers domain seen [] [] where
  parsed := .nil
  outOfZone := by simp
  fresh := by simp
  distinct := by simp

/-- The first text, and then the others. -/
theorem admittedNameservers_cons_iff {text : String} {texts : List String} {name : Name}
    {names : List Name} :
    hickory.AdmittedNameservers domain seen (text :: texts) (name :: names) ↔
      (∃ parsed, hickory.fromAscii text = .ok parsed ∧ parsed.setFqdn true = name) ∧
      hickory.zoneOf domain (.ofName name) = false ∧ LowerName.ofName name ∉ seen ∧
      hickory.AdmittedNameservers domain (insert (LowerName.ofName name) seen) texts names := by
  constructor
  · intro h
    have hnodup := List.nodup_cons.mp h.distinct
    refine ⟨(List.forall₂_cons.mp h.parsed).1, h.outOfZone name List.mem_cons_self,
      h.fresh name List.mem_cons_self, (List.forall₂_cons.mp h.parsed).2, fun other hother =>
      h.outOfZone other (List.mem_cons_of_mem _ hother), fun other hother => ?_, hnodup.2⟩
    rw [Finset.mem_insert, not_or]
    refine ⟨fun heq => hnodup.1 ?_, h.fresh other (List.mem_cons_of_mem _ hother)⟩
    exact List.mem_map.mpr ⟨other, hother, heq⟩
  · rintro ⟨hparsed, hout, hfresh, h⟩
    refine ⟨.cons hparsed h.parsed, List.forall_mem_cons.mpr ⟨hout, h.outOfZone⟩,
      List.forall_mem_cons.mpr ⟨hfresh, fun other hother hmem => ?_⟩,
      List.nodup_cons.mpr ⟨fun hmem => ?_, h.distinct⟩⟩
    · exact h.fresh other hother (Finset.mem_insert_of_mem hmem)
    · obtain ⟨other, hother, heq⟩ := List.mem_map.mp hmem
      exact h.fresh other hother (heq ▸ Finset.mem_insert_self _ _)

/-- **The walk succeeds exactly on admitted nameservers**, and returns their names in order. -/
theorem admitNameservers_ok_iff {context : String → String → String} {outOfZone : String}
    {fields : List (String × String)} {before names : List Name} :
    hickory.admitNameservers context domain outOfZone fields before seen = .ok names ↔
      ∃ added, names = before ++ added ∧
        hickory.AdmittedNameservers domain seen (fields.map (·.2)) added := by
  -- the walk carries the names kept and the set seen; both grow by one name per step
  induction fields generalizing before seen with
  | nil =>
      rw [admitNameservers, List.map_nil]
      constructor
      · intro h
        cases h
        exact ⟨[], by simp, admittedNameservers_nil⟩
      · rintro ⟨added, rfl, h⟩
        cases h.parsed
        simp
  | cons entry fields ih =>
      obtain ⟨field, text⟩ := entry
      rw [admitNameservers, Result.bind_ok_iff, List.map_cons]
      constructor
      · rintro ⟨name, hparse, h⟩
        rw [Result.bind_ok_iff] at h
        obtain ⟨seen', hadmit, h⟩ := h
        obtain ⟨hout, hfresh, rfl⟩ := admitNameserver_ok_iff.mp hadmit
        obtain ⟨added, rfl, hadded⟩ := ih.mp h
        exact ⟨name :: added, by simp, admittedNameservers_cons_iff.mpr
          ⟨parseFqdn_ok_iff.mp hparse, hout, hfresh, hadded⟩⟩
      · rintro ⟨added, rfl, h⟩
        cases added with
        | nil => cases h.parsed
        | cons name added =>
            obtain ⟨hparsed, hout, hfresh, hrest⟩ := admittedNameservers_cons_iff.mp h
            refine ⟨name, parseFqdn_ok_iff.mpr hparsed, ?_⟩
            rw [Result.bind_ok_iff]
            refine ⟨_, admitNameserver_ok_iff.mpr ⟨hout, hfresh, rfl⟩, ih.mpr ⟨added, ?_, hrest⟩⟩
            simp

end HickoryProto

end Zeeder.Dns
