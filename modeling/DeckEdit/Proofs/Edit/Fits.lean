import DeckEdit.Proofs.Deck.Tally
import DeckEdit.Proofs.Deck.Written
import DeckEdit.Proofs.Json.Fits
import DeckEdit.Proofs.Patch.Wire

/-! What an edit makes of a deck nests no deeper than the reader goes. What a style writes into an element
    stands five levels below the deck and four levels below the reply, and the reader goes one level less
    deep into a reply than into a deck. -/

namespace DeckEdit

namespace Json

/-! ### Parts of what fits -/

variable {depth : Nat}

theorem Fits.items {vs : List Json} (h : Fits (depth + 1) (.array vs)) : ∀ v ∈ vs, Fits depth v := by
  cases h with
  | array hitems => exact hitems

theorem Fits.members {members : Members} (h : Fits (depth + 1) (.object members)) :
    ∀ member ∈ members, Fits depth member.2 := by
  cases h with
  | object hnames hmembers => exact hmembers

theorem Fits.names {members : Members} (h : Fits depth (.object members)) : (Entries.keys members).Nodup := by
  cases h with
  | object hnames hmembers => exact hnames

theorem Fits.int_of_depth {other : Nat} {i : Int} (h : Fits depth (.int i)) : Fits other (.int i) := by
  cases h with
  | int hdigits => exact .int hdigits

theorem Fits.get? {members : Members} {name : Text} {v : Json} (h : Fits (depth + 1) (.object members))
    (hv : Entries.get? name members = some v) : Fits depth v :=
  h.members (name, v) (Entries.mem_of_get? hv)

theorem Fits.set_item {vs : List Json} {v : Json} (h : Fits (depth + 1) (.array vs)) (hv : Fits depth v)
    (position : Nat) : Fits (depth + 1) (.array (vs.set position v)) := by
  refine .array fun w hw => ?_
  rcases List.mem_or_eq_of_mem_set hw with hw | rfl
  · exact h.items w hw
  · exact hv

theorem Fits.setAll {members writes : Members} (h : Fits (depth + 1) (.object members))
    (hwrites : ∀ member ∈ writes, Fits depth member.2) :
    Fits (depth + 1) (.object (Entries.setAll writes members)) := by
  refine .object (Entries.nodup_keys_setAll h.names writes) fun member hmember => ?_
  exact (Entries.mem_setAll hmember).elim (hwrites member) (h.members member)

theorem Fits.set {members : Members} {v : Json} (h : Fits (depth + 1) (.object members)) (hv : Fits depth v)
    (name : Text) : Fits (depth + 1) (.object (Entries.set name v members)) := by
  have hwrites : ∀ member ∈ [(name, v)], Fits depth member.2 := by simpa using hv
  exact h.setAll hwrites

end Json

/-! ### Decks -/

namespace Deck
open Json
variable {depth : Nat}

theorem fits_elements {slide : Json.Members} (h : Fits (depth + 2) (.object slide)) :
    Fits (depth + 1) (.array (elements slide)) := by
  unfold elements
  split
  · rename_i entries hentries
    exact h.get? hentries
  · exact .array nofun

theorem fits_slides {deck : Json.Members} (h : Fits (depth + 2) (.object deck)) :
    Fits (depth + 1) (.array (slides deck)) := by
  unfold slides
  split
  · rename_i entries hentries
    exact h.get? hentries
  · exact .array nofun

theorem fits_of_objectAt? {entries : List Json} {position : Nat} {members : Json.Members}
    (h : Fits (depth + 1) (.array entries)) (hobject : objectAt? entries position = some members) :
    Fits depth (.object members) :=
  h.items _ (List.mem_of_getElem? (objectAt?_eq_some.mp hobject))

/-- A step keeps the slides within the depth if what it writes is. -/
theorem Step.fits {locks : Value} {slides next : List Json} {op : Op} {outcome : Outcome}
    (hstep : Step locks slides op next outcome) (h : Fits (depth + 4) (.array slides))
    (hwrites : ∀ written, op.change.writes = .ok written → ∀ member ∈ written, Fits depth member.2) :
    Fits (depth + 4) (.array next) := by
  cases hstep with
  | noSlide => exact h
  | locked => exact h
  | noElement => exact h
  | @applied p q slide element changed hslide hlock helement hchange =>
    have hslideFits := fits_of_objectAt? h (objectAt?_of_findSlide? hslide)
    have helements := fits_elements hslideFits
    have helementFits := helements.items _ (List.mem_of_getElem? (findElement?_eq_some.mp helement).entry)
    obtain ⟨written, hwritten, rfl⟩ := Change.apply_eq_ok.mp hchange
    exact h.set_item (hslideFits.set (helements.set_item (helementFits.setAll (hwrites written hwritten)) q)
      elementsKey) p

theorem fits_of_applyOps {locks : Value} {slides last : List Json} {ops : List Op} {outcomes : List Outcome}
    (h : applyOps locks slides ops = .ok (last, outcomes)) (hslides : Fits (depth + 4) (.array slides))
    (hwrites : ∀ op ∈ ops, ∀ written, op.change.writes = .ok written → ∀ member ∈ written,
      Fits depth member.2) : Fits (depth + 4) (.array last) := by
  induction ops generalizing slides outcomes with
  | nil =>
    cases h
    exact hslides
  | cons op rest ih =>
    obtain ⟨next, outcome, later, hstep, hrest, -⟩ := applyOps_cons_eq_ok.mp h
    exact ih hrest (hstep.fits hslides (hwrites op List.mem_cons_self))
      fun other hother => hwrites other (List.mem_cons_of_mem op hother)

theorem fits_of_apply {document locks : Value} {deck : Json.Members} {ops : List Op} {result : Result}
    (h : apply document locks ops = .ok result) (hdeck : document.toJson = .ok (.object deck))
    (hfits : Fits (depth + 5) (.object deck))
    (hwrites : ∀ op ∈ ops, ∀ written, op.change.writes = .ok written → ∀ member ∈ written,
      Fits depth member.2) : Fits (depth + 5) (.object result.deck) := by
  obtain ⟨deck', last, outcomes, hdeck', hrun, rfl⟩ := apply_eq_ok.mp h
  cases hdeck.symm.trans hdeck'
  exact hfits.set (fits_of_applyOps hrun (fits_slides hfits) hwrites) slidesKey

end Deck

/-! ### Patches -/

namespace Contract
open Json
variable {depth : Nat} {allowed : CodePoint → Prop}

theorem exists_get?_of_field? {members : Json.Members} {names : List Text} {v : Value}
    (h : field? names (Value.ofJsonMembers members) = some v) :
    ∃ name w, Entries.get? name members = some w ∧ Value.ofJson w = v := by
  obtain ⟨name, -, hname⟩ := List.exists_of_findSome?_eq_some h
  rw [Value.get?_ofJsonMembers] at hname
  obtain ⟨w, hw, heq⟩ := Option.map_eq_some_iff.mp hname
  exact ⟨name, w, hw, heq⟩

/-- A number that a coordinate is given as has no parts, so it fits at every depth. -/
theorem IsCoordinate.fits {w : Json} {coordinate : Coordinate} (h : IsCoordinate (Value.ofJson w) coordinate)
    (hfits : Fits depth w) (other : Nat) : Fits other coordinate.toJson := by
  cases w with
  | int i =>
    cases h
    exact hfits.int_of_depth
  | float f =>
    cases h
    exact .float f
  | _ => cases h

theorem fits_coordinateWrites {members : Json.Members} (hfits : Fits (depth + 1) (.object members))
    {names : List Text} {coordinate : Option Coordinate}
    (h : Omissible IsCoordinate (field? names (Value.ofJsonMembers members)) coordinate) (name : Text)
    (other : Nat) : ∀ member ∈ Change.coordinateWrites name coordinate, Fits other member.2 := by
  cases coordinate with
  | none => exact nofun
  | some coordinate =>
    obtain ⟨_, hfield, -, hspelled⟩ := h
    obtain ⟨_, w, hw, rfl⟩ := exists_get?_of_field? hfield
    intro member hmember
    rw [List.mem_singleton.mp hmember]
    exact hspelled.fits (hfits.get? hw) other

/-- What a change writes fits two levels below its operation. -/
theorem IsChange.fits {members : Json.Members} {change : Change}
    (h : IsChange allowed (Value.ofJsonMembers members) change) (hfits : Fits (depth + 2) (.object members))
    {written : Json.Members} (hwritten : change.writes = .ok written) :
    ∀ member ∈ written, Fits depth member.2 := by
  cases h with
  | @setText text word given =>
    cases hwritten
    intro member hmember
    rw [List.mem_singleton.mp hmember]
    exact .text text
  | setStyle word given =>
    obtain ⟨_, hfield, hstyle⟩ := given
    obtain ⟨_, w, hw, rfl⟩ := exists_get?_of_field? hfield
    have hcopy : (Value.ofJson w).toJson = .ok (.object written) := by
      rw [hstyle]
      exact Value.toJson_dict_eq_ok.mpr ⟨written, hwritten, rfl⟩
    cases (Value.toJson_ofJson w).symm.trans hcopy
    exact (hfits.get? hw).members
  | move word hx hy =>
    cases hwritten
    intro member hmember
    rcases List.mem_append.mp hmember with hmember | hmember
    · exact fits_coordinateWrites hfits hx _ depth member hmember
    · exact fits_coordinateWrites hfits hy _ depth member hmember

theorem IsOp.fits {v : Json} {op : Op} (h : IsOp allowed (Value.ofJson v) op) (hfits : Fits (depth + 2) v)
    {written : Json.Members} (hwritten : op.change.writes = .ok written) :
    ∀ member ∈ written, Fits depth member.2 := by
  obtain ⟨entries, hentries, hfields⟩ := h
  cases v with
  | object members =>
    cases hentries
    exact hfields.change.fits hfits hwritten
  | _ => cases hentries

theorem AreOps.fits {v : Json} {ops : List Op} (h : AreOps allowed (Value.ofJson v) ops)
    (hfits : Fits (depth + 3) v) : ∀ op ∈ ops, ∀ written, op.change.writes = .ok written →
      ∀ member ∈ written, Fits depth member.2 := by
  obtain ⟨items, hitems, -, -, hops⟩ := h
  cases v with
  | array copies =>
    obtain rfl : Value.ofJsonItems copies = items := hitems.elim Value.list.inj nofun
    rw [Value.ofJsonItems_eq_map] at hops
    intro op hop written hwritten
    obtain ⟨k, hk, rfl⟩ := List.getElem_of_mem hop
    have hcopy : k < copies.length := by
      rwa [← hops.length_eq, List.length_map] at hk
    have hspelled := (List.forall₂_map_left_iff.mp hops).get hcopy hk
    exact IsOp.fits hspelled (hfits.items _ (List.getElem_mem hcopy)) hwritten
  | _ => rcases hitems with hitems | hitems <;> cases hitems

end Contract

open Contract Json

/-- What the operations of a patch write fits four levels below the candidate. -/
theorem Patch.fits_of_ofValue {depth : Nat} {v : Json} {patch : Patch}
    (h : Patch.ofValue (Value.ofJson v) = .ok patch) (hfits : Fits (depth + 4) v) :
    ∀ op ∈ patch.ops, ∀ written, op.change.writes = .ok written →
      ∀ member ∈ written, Fits depth member.2 := by
  cases v with
  | object members =>
    obtain ⟨⟨_, hfield, hops⟩, -⟩ := Patch.ofValue_dict_eq_ok.mp h
    obtain ⟨_, w, hw, rfl⟩ := exists_get?_of_field? hfield
    exact hops.fits (hfits.get? hw)
  | _ => cases h

/-! ### Edits -/

namespace Edit

/-- An edit of a deck that the reader gave makes a deck that the reader can give. -/
theorem fits_of_run {settings : Settings} {request : Request} {report : Report} {deck : Json.Members}
    (h : run settings request = .ok (.done report)) (hdeck : request.document = Value.ofJson (.object deck))
    (hfits : Fits maxDepth (.object deck)) : Fits maxDepth (.object report.result.deck) := by
  obtain ⟨proposal, hparse, hpatch⟩ := run_eq_done.mp h
  obtain ⟨policy, result, -, -, hresult, -, rfl⟩ := applyPatch_eq_ok.mp hpatch
  obtain ⟨-, -, v, hread, hcandidate⟩ := Reply.parse_eq_ok.mp hparse
  have hwrites := Patch.fits_of_ofValue hcandidate (fits_of_readWithin hread)
  have hjson : request.document.toJson = .ok (.object deck) := by rw [hdeck, Value.toJson_ofJson]
  exact Deck.fits_of_apply hresult hjson hfits fun op hop =>
    hwrites op ((policy.keep_sublist _).subset hop)

end Edit
end DeckEdit
