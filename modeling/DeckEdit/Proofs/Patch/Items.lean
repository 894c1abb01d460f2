import DeckEdit.Patch.Wire
import DeckEdit.Proofs.Patch.Json
import DeckEdit.Proofs.Text

/-! Operations are checked one by one. What a check has to say against a value does not depend on where the
    value stands, but for the place that it names. So the issues of a patch are those that each of its
    operations has alone, told of its number, and after them those of the summary. -/

namespace DeckEdit

namespace Issue

/-- The issue with a way in front of its place. -/
def under (place : List Segment) (issue : Issue) : Issue :=
  { issue with place := place ++ issue.place }

/-- An issue of the only operation of a patch, told of the operation with that number. -/
def renumber (i : Nat) (issue : Issue) : Issue :=
  { issue with place := issue.place.set 1 (.index i) }

/-- What an error text has after its first issue. -/
def remainder : Nat → Text
  | 0 => []
  | count => " (+" ++ Text.ofNat count ++ " more)"

theorem field_ne_nil {issue : Issue} {name : Text} {way : List Segment} (h : issue.place = .name name :: way)
    (hname : name ≠ []) : issue.field ≠ [] := by
  obtain ⟨tail, htail⟩ := Text.exists_join_cons "." (way.map Segment.shown)
  have hfield : issue.field = name ++ tail := by rw [field, h, List.map_cons, htail, Segment.shown]
  rw [hfield]
  exact List.append_ne_nil_of_left_ne_nil hname tail

theorem summarize_cons {first : Issue} (rest : List Issue) (hfield : first.field ≠ []) :
    summarize (first :: rest) = first.field ++ ": " ++ first.message ++ remainder rest.length := by
  have hempty : first.field.isEmpty = false := by simpa using hfield
  cases rest <;> simp [summarize, hempty, remainder]

end Issue

namespace Contract

/-! ### Places -/

namespace Checked
variable {α β : Type}

/-- What there is to say against a value. -/
def issues : Checked α → List Issue
  | .ok _ => []
  | .error issues => issues

/-- The outcome with a way in front of the places of all issues. -/
def under (place : List Segment) (a : Checked α) : Checked α :=
  a.mapError (List.map (Issue.under place))

theorem issues_map (a : Checked α) (f : α → β) : issues (a.map f) = issues a := by
  cases a <;> rfl

theorem issues_both (a : Checked α) (b : Checked β) : issues (both a b) = issues a ++ issues b := by
  cases a <;> cases b <;> simp [both, issues]

theorem issues_all (check : Nat → α → Checked β) (xs : List α) :
    issues (all (xs.mapIdx check)) = (xs.mapIdx fun i x => issues (check i x)).flatten := by
  induction xs generalizing check with
  | nil => rfl
  | cons x xs ih =>
    rw [List.mapIdx_cons, List.mapIdx_cons, all, issues_map, issues_both, ih, List.flatten_cons]

theorem issues_under (place : List Segment) (a : Checked α) :
    issues (under place a) = (issues a).map (Issue.under place) := by
  cases a <;> rfl

theorem under_eq_ok {place : List Segment} {a : Checked α} {x : α} : under place a = .ok x ↔ a = .ok x := by
  cases a <;> simp [under, Except.mapError]

theorem under_map (place : List Segment) (a : Checked α) (f : α → β) :
    under place (a.map f) = (under place a).map f := by
  cases a <;> rfl

theorem under_both (place : List Segment) (a : Checked α) (b : Checked β) :
    under place (both a b) = both (under place a) (under place b) := by
  cases a <;> cases b <;> simp [both, under, Except.mapError]

theorem under_all (place : List Segment) (checks : List (Checked α)) :
    under place (all checks) = all (checks.map (under place)) := by
  induction checks with
  | nil => rfl
  | cons check checks ih => rw [all, under_map, under_both, ih, List.map_cons, all]

/-- A longer way to the value stands in front of all places, and changes nothing else. -/
def Relocates (check : List Segment → Checked α) : Prop :=
  ∀ place rest, check (place ++ rest) = under place (check rest)

theorem Relocates.map {check : List Segment → Checked α} (h : Relocates check) (f : α → β) :
    Relocates fun place => (check place).map f := fun place rest => by
  rw [under_map, ← h]

theorem Relocates.both {check : List Segment → Checked α} {other : List Segment → Checked β}
    (h : Relocates check) (hother : Relocates other) :
    Relocates fun place => both (check place) (other place) := fun place rest => by
  rw [under_both, ← h, ← hother]

theorem Relocates.at {check : List Segment → Checked α} (h : Relocates check) (last : List Segment) :
    Relocates fun place => check (place ++ last) := fun place rest =>
  (congrArg check (List.append_assoc place rest last)).trans (h place (rest ++ last))

theorem relocates_refuse (last : List Segment) (violation : Violation) :
    Relocates fun place => (refuse (place ++ last) violation : Checked α) := by
  have h : Relocates fun place => (refuse place violation : Checked α) := fun _ _ => rfl
  exact h.at last

end Checked

open Checked

section
variable {α : Type} {check : List Segment → Value → Checked α}

theorem relocates_required (h : ∀ v, Relocates (check · v)) (entries : Entries Value.Key Value)
    (name : Text) (otherNames : List Text) :
    Relocates fun place => required entries place name otherNames check := by
  intro place rest
  unfold required
  split
  · exact relocates_refuse _ _ place rest
  · exact (h _).at _ place rest

theorem relocates_optional (h : ∀ v, Relocates (check · v)) (entries : Entries Value.Key Value)
    (name : Text) (otherNames : List Text) :
    Relocates fun place => optional entries place name otherNames check := by
  intro place rest
  unfold optional
  split
  · rfl
  · exact relocates_refuse _ _ place rest
  · exact ((h _).at _).map some place rest

end

theorem relocates_checkText (atLeastOne : Bool) (limit : Option Nat) (v : Value) :
    Relocates (checkText atLeastOne limit · v) := by
  intro place rest
  unfold checkText
  repeat' split
  all_goals rfl

theorem relocates_checkSlideIndex (v : Value) : Relocates (checkSlideIndex · v) := by
  intro place rest
  unfold checkSlideIndex
  repeat' split
  all_goals rfl

theorem relocates_checkCoordinate (v : Value) : Relocates (checkCoordinate · v) := by
  intro place rest
  unfold checkCoordinate
  repeat' split
  all_goals simp [under, Except.mapError, refuse, Issue.under]

theorem relocates_checkStyle (v : Value) : Relocates (checkStyle · v) := by
  intro place rest
  cases v with
  | dict entries =>
    simp only [checkStyle, under_all, List.map_map]
    refine congrArg all (List.map_congr_left fun entry _ => ?_)
    obtain ⟨k, v⟩ := entry
    cases k <;> simp [under, Except.mapError, refuse, Issue.under]
  | _ => rfl

theorem relocates_checkChange (entries : Entries Value.Key Value) (kind : ChangeKind) :
    Relocates (checkChange entries · kind) := by
  cases kind with
  | setText => exact (relocates_required (relocates_checkText _ _) entries _ _).map _
  | setStyle => exact (relocates_required relocates_checkStyle entries _ _).map _
  | move =>
    exact ((relocates_optional relocates_checkCoordinate entries _ _).both
      (relocates_optional relocates_checkCoordinate entries _ _)).map _

theorem relocates_checkFields (entries : Entries Value.Key Value) (kind : ChangeKind) :
    Relocates (checkFields entries · kind) := by
  have hobject := relocates_required (relocates_checkText true none) entries
  have htext := relocates_optional (relocates_checkText true none) entries
  have hindex := relocates_optional relocates_checkSlideIndex entries
  exact ((hobject _ _).both ((htext _ _).both ((hindex _ _).both (relocates_checkChange _ _)))).map _

theorem relocates_checkOp (v : Value) : Relocates (checkOp · v) := by
  intro place rest
  unfold checkOp
  split
  · split
    · rfl
    · split
      · rfl
      -- The kind stands in the way to the fields, behind the place of the operation.
      · exact (relocates_checkFields _ _).at _ place rest
  · rfl

/-! ### Candidates -/

/-- What there is to say against a candidate. -/
def objections (candidate : Value) : List Issue :=
  issues (Patch.ofValue candidate)

/-- The candidate with this one operation. -/
def alone (item : Value) : Value :=
  .dict [(.text "ops", .list [item])]

/-- An operation with which nothing is wrong. -/
def idle : Op :=
  ⟨"a", none, none, .move none none⟩

/-- The candidate that has this summary, if any, and beside it one operation with which nothing is wrong. -/
def withSummary (summary : Option Value) : Value :=
  .dict ((.text "ops", .list [idle.toValue]) :: Value.entry? "summary" summary)

/-- What is checked of the summary of a candidate. -/
def checkSummary (entries : Entries Value.Key Value) : Checked (Option Text) :=
  optional entries [] "summary" [] (checkText false (some Patch.maxSummaryLength))

theorem findField?_singleton (name : Text) (entries : Entries Value.Key Value) :
    findField? [name] entries = (Entries.get? (.text name) entries).map fun v => (name, v) := by
  simp [findField?]

theorem checkSummary_congr {entries others : Entries Value.Key Value}
    (h : Entries.get? (.text "summary") entries = Entries.get? (.text "summary") others) :
    checkSummary entries = checkSummary others := by
  rw [checkSummary, checkSummary, optional, optional, findField?_singleton, findField?_singleton, h]

theorem objections_eq_nil {candidate : Value} :
    objections candidate = [] ↔ ∃ patch, Patch.ofValue candidate = .ok patch := by
  have hexplained := explained_ofValue candidate
  unfold objections
  cases hpatch : Patch.ofValue candidate with
  | ok patch => simp [issues]
  | error found =>
    have hne : found ≠ [] := fun hnil => hexplained (hnil ▸ hpatch)
    simp [issues, hne]

/-- The operations of a candidate are checked, and then its summary. -/
theorem ofValue_dict {entries : Entries Value.Key Value} {v : Value}
    (hops : Entries.get? (.text "ops") entries = some v) :
    Patch.ofValue (.dict entries) =
      (both (checkOps [.name "ops"] v) (checkSummary entries)).map fun (ops, summary) => ⟨ops, summary⟩ := by
  have hrequired : required entries [] "ops" [] checkOps = checkOps [.name "ops"] v := by
    rw [required, findField?_singleton, hops]
    rfl
  rw [Patch.ofValue, hrequired]
  rfl

theorem checkOps_of_length {v : Value} {items : List Value} (hitems : v = .list items ∨ v = .tuple items)
    (hleast : 1 ≤ items.length) (hmost : items.length ≤ Patch.maxOps) :
    checkOps [.name "ops"] v = all (items.mapIdx fun i item => checkOp [.name "ops", .index i] item) := by
  have hne : items.isEmpty = false := by cases items <;> simp_all
  rcases hitems with rfl | rfl <;> simp [checkOps, hne, Nat.not_lt.mpr hmost]

theorem ofValue_alone (item : Value) :
    Patch.ofValue (alone item) = (checkOp [.name "ops", .index 0] item).map fun op => ⟨[op], none⟩ := by
  have hone : 1 ≤ Patch.maxOps := by decide
  have hops : checkOps [.name "ops"] (.list [item]) = _ := checkOps_of_length (.inl rfl) (Nat.le_refl 1) hone
  have hsummary : checkSummary [(.text "ops", .list [item])] = .ok none := rfl
  rw [alone, ofValue_dict rfl, hsummary, hops, List.mapIdx_cons]
  simp only [List.mapIdx_nil, all]
  cases checkOp [.name "ops", .index 0] item <;> rfl

theorem ofValue_withSummary (entries : Entries Value.Key Value) :
    Patch.ofValue (withSummary (Entries.get? (.text "summary") entries)) =
      (checkSummary entries).map fun summary => ⟨[idle], summary⟩ := by
  have hops : checkOps [.name "ops"] (.list [idle.toValue]) = .ok [idle] := rfl
  have hsummary : checkSummary ((.text "ops", .list [idle.toValue]) ::
      Value.entry? "summary" (Entries.get? (.text "summary") entries)) = checkSummary entries :=
    checkSummary_congr (by cases Entries.get? (.text "summary") entries <;> rfl)
  rw [withSummary, ofValue_dict rfl, hops, hsummary]
  cases checkSummary entries <;> rfl

theorem objections_withSummary (entries : Entries Value.Key Value) :
    objections (withSummary (Entries.get? (.text "summary") entries)) = issues (checkSummary entries) := by
  rw [objections, ofValue_withSummary, issues_map]

/-! ### An operation and its number -/

section
variable {item : Value} {op : Op} {issue : Issue}

theorem checkOp_item (i : Nat) (item : Value) :
    checkOp [.name "ops", .index i] item = under [.name "ops", .index i] (checkOp [] item) :=
  relocates_checkOp item [.name "ops", .index i] []

theorem checkOp_eq_ok_iff (i : Nat) (item : Value) (op : Op) :
    checkOp [.name "ops", .index i] item = .ok op ↔ Patch.ofValue (alone item) = .ok ⟨[op], none⟩ := by
  rw [ofValue_alone, map_eq_ok, checkOp_item, checkOp_item, under_eq_ok]
  simp only [under_eq_ok, Patch.mk.injEq, List.cons.injEq, and_true, exists_eq_right]

theorem objections_alone (item : Value) :
    objections (alone item) = (issues (checkOp [] item)).map (Issue.under [.name "ops", .index 0]) := by
  rw [objections, ofValue_alone, issues_map, checkOp_item, issues_under]

theorem issues_checkOp (i : Nat) (item : Value) :
    issues (checkOp [.name "ops", .index i] item) = (objections (alone item)).map (Issue.renumber i) := by
  rw [checkOp_item, issues_under, objections_alone, List.map_map]
  rfl

/-- The number stands in front of the field, and nothing behind it depends on the number. -/
theorem exists_field_of_objections_alone (h : issue ∈ objections (alone item)) : ∃ rest : Text,
    issue.field = "ops.0" ++ rest ∧ ∀ i, (issue.renumber i).field = "ops." ++ Text.ofNat i ++ rest := by
  rw [objections_alone] at h
  obtain ⟨found, -, rfl⟩ := List.mem_map.mp h
  obtain ⟨tail, htail⟩ := Text.exists_join_cons "." (found.place.map Segment.shown)
  have hfield (i : Nat) : (Issue.under [.name "ops", .index i] found).field =
      "ops." ++ Text.ofNat i ++ tail := by
    have hjoin := htail (Text.ofNat i)
    simp only [Issue.field, Issue.under, List.cons_append, List.nil_append, List.map_cons,
      Segment.shown, Text.join, hjoin]
    rfl
  exact ⟨tail, hfield 0, hfield⟩

/-- The issues of a summary name it. -/
theorem exists_place_of_checkSummary {entries : Entries Value.Key Value}
    (h : issue ∈ issues (checkSummary entries)) : ∃ way, issue.place = .name "summary" :: way := by
  rw [checkSummary, optional, findField?_singleton] at h
  split at h
  · cases h
  · rename_i found hfound
    obtain ⟨v, -, heq⟩ := Option.map_eq_some_iff.mp hfound
    cases heq
    obtain rfl := List.mem_singleton.mp h
    exact ⟨[], rfl⟩
  · rename_i found v hnull hfound
    obtain ⟨v, -, heq⟩ := Option.map_eq_some_iff.mp hfound
    cases heq
    have hcheck : checkText false (some Patch.maxSummaryLength) ([] ++ [.name "summary"]) v =
        under [.name "summary"] (checkText false (some Patch.maxSummaryLength) [] v) :=
      relocates_checkText _ _ v [.name "summary"] []
    rw [issues_map, hcheck, issues_under] at h
    obtain ⟨inner, -, rfl⟩ := List.mem_map.mp h
    exact ⟨inner.place, rfl⟩

end

/-! ### Patches item by item -/

/-- Every operation is checked by itself, and so is the summary. -/
structure ItemByItem (entries : Entries Value.Key Value) (items : List Value) : Prop where
  /-- The issues of each operation alone, told of its number, and those of the summary. -/
  issues : objections (.dict entries) =
    (items.mapIdx fun i item => (objections (alone item)).map (Issue.renumber i)).flatten ++
      objections (withSummary (Entries.get? (.text "summary") entries))
  field : ∀ item ∈ items, ∀ issue ∈ objections (alone item), ∃ rest : Text,
    issue.field = "ops.0" ++ rest ∧ ∀ i, (issue.renumber i).field = "ops." ++ Text.ofNat i ++ rest
  accepted : (∃ patch, Patch.ofValue (.dict entries) = .ok patch) ↔
    (∀ item ∈ items, ∃ patch, Patch.ofValue (alone item) = .ok patch) ∧
      ∃ patch, Patch.ofValue (withSummary (Entries.get? (.text "summary") entries)) = .ok patch
  /-- The patch has the operations that the items are alone. -/
  patch : ∀ patch, Patch.ofValue (.dict entries) = .ok patch ↔
    List.Forall₂ (fun item op => Patch.ofValue (alone item) = .ok ⟨[op], none⟩) items patch.ops ∧
      Patch.ofValue (withSummary (Entries.get? (.text "summary") entries)) = .ok ⟨[idle], patch.summary⟩
  /-- The error text has the first issue and the number of the others. -/
  text : ∀ first rest, objections (.dict entries) = first :: rest →
    Issue.summarize (objections (.dict entries)) =
      first.field ++ ": " ++ first.message ++ Issue.remainder rest.length

section
variable {entries : Entries Value.Key Value} {v : Value} {items : List Value}

theorem objections_dict (hops : Entries.get? (.text "ops") entries = some v)
    (hchecks : checkOps [.name "ops"] v =
      all (items.mapIdx fun i item => checkOp [.name "ops", .index i] item)) :
    objections (.dict entries) =
      (items.mapIdx fun i item => (objections (alone item)).map (Issue.renumber i)).flatten ++
        objections (withSummary (Entries.get? (.text "summary") entries)) := by
  rw [objections_withSummary, objections, ofValue_dict hops, issues_map, issues_both, hchecks, issues_all]
  simp only [issues_checkOp]

theorem field_ne_nil_of_mem {issue : Issue}
    (h : issue ∈ (items.mapIdx fun i item => (objections (alone item)).map (Issue.renumber i)).flatten ++
      objections (withSummary (Entries.get? (.text "summary") entries))) : issue.field ≠ [] := by
  rcases List.mem_append.mp h with hitem | hsummary
  · obtain ⟨found, hfound, hissue⟩ := List.mem_flatten.mp hitem
    obtain ⟨i, hi, rfl⟩ := List.mem_mapIdx.mp hfound
    obtain ⟨only, honly, rfl⟩ := List.mem_map.mp hissue
    obtain ⟨rest, -, hfield⟩ := exists_field_of_objections_alone honly
    rw [hfield, List.append_assoc]
    exact List.append_ne_nil_of_left_ne_nil (by decide) _
  · rw [objections_withSummary] at hsummary
    obtain ⟨way, hplace⟩ := exists_place_of_checkSummary hsummary
    exact Issue.field_ne_nil hplace (by decide)

/-- A candidate with 1 to 50 operations is checked item by item: none of them hides, moves or changes what
    there is to say against another. -/
theorem checked_item_by_item (hops : Entries.get? (.text "ops") entries = some v)
    (hitems : v = .list items ∨ v = .tuple items) (hleast : 1 ≤ items.length)
    (hmost : items.length ≤ 50) : ItemByItem entries items := by
  have hchecks := checkOps_of_length hitems hleast hmost
  have hissues := objections_dict hops hchecks
  constructor
  case issues => exact hissues
  case field => exact fun item _ issue hissue => exists_field_of_objections_alone hissue
  case accepted =>
    simp only [← objections_eq_nil]
    rw [hissues, List.append_eq_nil_iff, List.flatten_eq_nil_iff]
    refine and_congr_left' ⟨fun h item hitem => ?_, fun h found hfound => ?_⟩
    · obtain ⟨i, hi, rfl⟩ := List.getElem_of_mem hitem
      exact List.map_eq_nil_iff.mp (h _ (List.mem_mapIdx.mpr ⟨i, hi, rfl⟩))
    · obtain ⟨i, hi, rfl⟩ := List.mem_mapIdx.mp hfound
      rw [h _ (List.getElem_mem hi), List.map_nil]
  case patch =>
    intro patch
    rw [ofValue_dict hops, ofValue_withSummary, hchecks, map_eq_ok, map_eq_ok]
    simp only [Prod.exists, both_eq_ok, all_mapIdx_eq_ok checkOp_eq_ok_iff]
    constructor
    · rintro ⟨ops, summary, ⟨hall, hsummary⟩, rfl⟩
      exact ⟨hall, summary, hsummary, rfl⟩
    · rintro ⟨hall, summary, hsummary, heq⟩
      obtain rfl : summary = patch.summary := congrArg Patch.summary heq
      exact ⟨patch.ops, patch.summary, ⟨hall, hsummary⟩, rfl⟩
  case text =>
    intro first rest hfirst
    have hmem : first ∈ objections (.dict entries) := hfirst ▸ List.mem_cons_self
    rw [hfirst]
    exact Issue.summarize_cons rest (field_ne_nil_of_mem (hissues ▸ hmem))

end

/-- Four operations of which each has other faults, around one that has none. -/
def faultyItems : List Value :=
  [.int 5, .dict [(.text "op", .text "set_text"), (.text "text", .text [])], idle.toValue,
    .dict [(.text "objectId", .text "a")],
    .dict [(.text "op", .text "move"), (.text "objectId", .text "a"), (.text "x", .bool true)]]

def faultyEntries : Entries Value.Key Value :=
  [(.text "summary", .null), (.text "ops", .tuple faultyItems)]

def faultyIssues : List Issue :=
  [⟨[.name "ops", .index 0], .opNotMapping⟩,
    ⟨[.name "ops", .index 1, .name "set_text", .name "objectId"], .missing⟩,
    ⟨[.name "ops", .index 1, .name "set_text", .name "text"], .emptyText⟩,
    ⟨[.name "ops", .index 3], .kindMissing⟩,
    ⟨[.name "ops", .index 4, .name "move", .name "x", .name "int"], .notInteger⟩,
    ⟨[.name "ops", .index 4, .name "move", .name "x", .name "float"], .notNumber⟩,
    ⟨[.name "summary"], .explicitNull⟩]

theorem checked_item_by_item_faulty :
    Entries.get? (.text "ops") faultyEntries = some (.tuple faultyItems) ∧
      objections (.dict faultyEntries) = faultyIssues ∧
      Issue.summarize (objections (.dict faultyEntries)) =
        "ops.0" ++ ": " ++ Violation.message .opNotMapping ++ " (+6 more)" := by
  have hops : Entries.get? (.text "ops") faultyEntries = some (.tuple faultyItems) := rfl
  have hfaulty := checked_item_by_item hops (.inr rfl) (by decide) (by decide)
  have hissues : objections (.dict faultyEntries) = faultyIssues := hfaulty.issues
  exact ⟨hops, hissues, hfaulty.text _ _ hissues⟩

end Contract
end DeckEdit
