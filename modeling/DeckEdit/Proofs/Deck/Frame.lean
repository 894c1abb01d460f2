import DeckEdit.Proofs.Deck.Tally
import DeckEdit.Proofs.Deck.Written
import Mathlib.Data.List.Forall2

/-! What no operation touches. Of a deck only the list of slides can change, of a slide only the list of
    its elements, and there only objects, which keep their keys in front; all that is no object stays
    as it is, and nothing is added to a list, taken from it or moved. -/

namespace DeckEdit

/-! ### Lists of which only objects change -/

/-- Nothing has changed, or an object has become a related one. -/
inductive Json.Within (R : Json.Members → Json.Members → Prop) : Json → Json → Prop where
  | same (v : Json) : Within R v v
  | object {members changed : Json.Members} (h : R members changed) :
      Within R (.object members) (.object changed)

namespace Json.Within
variable {R : Json.Members → Json.Members → Prop}

theorem trans (hR : ∀ l m n, R l m → R m n → R l n) {u v w : Json} (huv : Within R u v)
    (hvw : Within R v w) : Within R u w := by
  cases huv with
  | same => exact hvw
  | object h =>
    cases hvw with
    | same => exact .object h
    | object h' => exact .object (hR _ _ _ h h')

theorem list_refl (l : List Json) : List.Forall₂ (Within R) l l :=
  List.forall₂_same.mpr fun v _ => .same v

theorem list_trans (hR : ∀ l m n, R l m → R m n → R l n) {l m n : List Json}
    (hlm : List.Forall₂ (Within R) l m) (hmn : List.Forall₂ (Within R) m n) :
    List.Forall₂ (Within R) l n := by
  induction hlm generalizing n with
  | nil => exact hmn
  | cons h _ ih =>
    cases hmn with
    | cons h' hrest => exact .cons (h.trans hR h') (ih hrest)

theorem list_set {members changed : Json.Members} (h : R members changed) {l : List Json} {i : Nat}
    (hi : l[i]? = some (.object members)) : List.Forall₂ (Within R) l (l.set i (.object changed)) := by
  induction l generalizing i with
  | nil => cases hi
  | cons v rest ih =>
    cases i with
    | zero =>
      obtain rfl : v = .object members := by simpa using hi
      exact .cons (.object h) (list_refl rest)
    | succ i => exact .cons (.same v) (ih (by simpa using hi))

end Json.Within

namespace Deck

/-! ### Slides -/

/-- What stays of a slide. -/
structure SlideKept (slide changed : Json.Members) : Prop where
  keys : Entries.keys changed = Entries.keys slide
  other : ∀ key, key ≠ elementsKey → changed.get? key = slide.get? key
  entries : List.Forall₂ (Json.Within fun element changed =>
    Entries.keys element <+: Entries.keys changed) (elements slide) (elements changed)
  list : ∀ entries, slide.get? elementsKey = some (.array entries) →
    changed = slide.set elementsKey (.array (elements changed))
  noList : (∀ entries, slide.get? elementsKey ≠ some (.array entries)) → changed = slide

theorem SlideKept.trans {l m n : Json.Members} (h : SlideKept l m) (h' : SlideKept m n) :
    SlideKept l n where
  keys := h'.keys.trans h.keys
  other key hkey := (h'.other key hkey).trans (h.other key hkey)
  entries := Json.Within.list_trans (fun _ _ _ h h' => h.trans h') h.entries h'.entries
  list entries hl := by
    have hm := h.list entries hl
    have hn := h'.list (elements m) (by rw [hm]; simp [Entries.get?_set_self])
    rwa [hm, Entries.set_set] at hn
  noList hno := by
    obtain rfl := h.noList hno
    exact h'.noList hno

theorem exists_array_of_elements {slide : Json.Members} {q : Nat} {v : Json}
    (h : (elements slide)[q]? = some v) : slide.get? elementsKey = some (.array (elements slide)) := by
  unfold elements at h ⊢
  split
  · assumption
  · simp_all

/-- Replacing an element by one with the same keys in front keeps the slide. -/
theorem slideKept_set {slide element changed : Json.Members} {q : Nat}
    (hentry : (elements slide)[q]? = some (.object element))
    (hkeys : Entries.keys element <+: Entries.keys changed) :
    SlideKept slide
      (slide.set elementsKey (.array ((elements slide).set q (.object changed)))) where
  keys := Entries.keys_set_of_get? (exists_array_of_elements hentry) _
  other key hkey := Entries.get?_set_of_ne hkey _ _
  entries := by
    rw [elements_set]
    exact Json.Within.list_set hkeys hentry
  list _ _ := by rw [elements_set]
  noList hno := absurd (exists_array_of_elements hentry) (hno _)

theorem SlideKept.refl (slide : Json.Members) : SlideKept slide slide where
  keys := rfl
  other _ _ := rfl
  entries := Json.Within.list_refl _
  list entries hentries := by
    have hsame : elements slide = entries := by simp [elements, hentries]
    rw [hsame, Entries.set_of_get? hentries]
  noList _ := rfl

/-- What has become of a slide is told from its elements. -/
theorem SlideKept.ext {slide a b : Json.Members} (ha : SlideKept slide a) (hb : SlideKept slide b)
    (heq : elements a = elements b) : a = b := by
  by_cases hlist : ∃ entries, slide.get? elementsKey = some (.array entries)
  · obtain ⟨entries, hentries⟩ := hlist
    rw [ha.list entries hentries, hb.list entries hentries, heq]
  · rw [ha.noList (not_exists.mp hlist), hb.noList (not_exists.mp hlist)]

theorem ext_of_slideKept {v a b : Json} (ha : Json.Within SlideKept v a) (hb : Json.Within SlideKept v b)
    (heq : ∀ m n, a = .object m → b = .object n → elements m = elements n) : a = b := by
  cases ha with
  | same =>
    cases hb with
    | same => rfl
    | object hb => rw [SlideKept.ext (.refl _) hb (heq _ _ rfl rfl)]
  | object ha =>
    cases hb with
    | same => rw [SlideKept.ext ha (.refl _) (heq _ _ rfl rfl)]
    | object hb => rw [SlideKept.ext ha hb (heq _ _ rfl rfl)]

/-- What stays of a list of slides. -/
def SlidesKept (slides changed : List Json) : Prop :=
  List.Forall₂ (Json.Within SlideKept) slides changed

theorem SlidesKept.trans {l m n : List Json} (h : SlidesKept l m) (h' : SlidesKept m n) :
    SlidesKept l n :=
  Json.Within.list_trans (R := SlideKept) (fun _ _ _ => SlideKept.trans) h h'

/-- What has become of a slide is told from the entries among its elements. -/
theorem SlidesKept.getElem?_ext {slides s t : List Json} (hs : SlidesKept slides s) (ht : SlidesKept slides t)
    {p : Nat} (hsame : ∀ q, entryAt? s p q = entryAt? t p q) : s[p]? = t[p]? := by
  rcases Nat.lt_or_ge p slides.length with hlt | hge
  · have hlts : p < s.length := hs.length_eq ▸ hlt
    have hltt : p < t.length := ht.length_eq ▸ hlt
    have hwithin := (List.forall₂_iff_get.mp hs).2 p hlt hlts
    have hwithin' := (List.forall₂_iff_get.mp ht).2 p hlt hltt
    rw [List.getElem?_eq_getElem hlts, List.getElem?_eq_getElem hltt]
    refine congrArg some (ext_of_slideKept hwithin hwithin' fun m n hm hn => ?_)
    refine List.ext_getElem? fun q => ?_
    simpa [entryAt?, objectAt?, hlts, hltt, hm, hn, Json.members?] using hsame q
  · rw [List.getElem?_eq_none (hs.length_eq ▸ hge), List.getElem?_eq_none (ht.length_eq ▸ hge)]

theorem SlidesKept.refl (slides : List Json) : SlidesKept slides slides :=
  Json.Within.list_refl slides

/-- If a slide differs, one of its elements does. -/
theorem SlidesKept.exists_entryAt?_ne {slides changed : List Json} (h : SlidesKept slides changed)
    {p : Nat} (hne : changed[p]? ≠ slides[p]?) : ∃ q, entryAt? changed p q ≠ entryAt? slides p q := by
  by_contra hall
  have hsame : ∀ q, entryAt? changed p q = entryAt? slides p q := by simpa using hall
  exact hne (h.getElem?_ext (.refl slides) hsame)

/-- Slides that come from the same ones are the same if their elements are. -/
theorem SlidesKept.ext {slides s t : List Json} (hs : SlidesKept slides s) (ht : SlidesKept slides t)
    (hsame : ∀ p q, entryAt? s p q = entryAt? t p q) : s = t :=
  List.ext_getElem? fun p => hs.getElem?_ext ht (hsame p)

/-- Slides of which only elements can differ are the same if their elements are. -/
theorem SlidesKept.eq_of_entryAt? {slides changed : List Json} (h : SlidesKept slides changed)
    (hsame : ∀ p q, entryAt? changed p q = entryAt? slides p q) : changed = slides :=
  h.ext (.refl slides) hsame

theorem Step.slidesKept {locks : Value} {slides next : List Json} {op : Op} {outcome : Outcome}
    (h : Step locks slides op next outcome) : SlidesKept slides next := by
  cases h with
  | noSlide => exact .refl slides
  | locked => exact .refl slides
  | noElement => exact .refl slides
  | applied hslide _ helement hchange =>
    have hobject := objectAt?_eq_some.mp (objectAt?_of_findSlide? hslide)
    have hfirst := findElement?_eq_some.mp helement
    exact Json.Within.list_set (slideKept_set hfirst.entry (Change.keys_prefix_apply hchange)) hobject

theorem slidesKept_of_applyOps {locks : Value} {slides last : List Json} {ops : List Op}
    {outcomes : List Outcome} (h : applyOps locks slides ops = .ok (last, outcomes)) :
    SlidesKept slides last :=
  applyOps_induction SlidesKept.refl SlidesKept.trans (fun hstep => hstep.slidesKept) h

/-! ### Decks -/

/-- What stays of a deck. A list of slides is put in where there was none. -/
structure DeckKept (deck changed : Json.Members) : Prop where
  other : ∀ key, key ≠ slidesKey → changed.get? key = deck.get? key
  keys : Entries.keys changed =
    if (deck.get? slidesKey).isSome then Entries.keys deck else Entries.keys deck ++ [slidesKey]
  slides : ∃ entries, changed.get? slidesKey = some (.array entries) ∧ SlidesKept (slides deck) entries
  noList : (∀ entries, deck.get? slidesKey ≠ some (.array entries)) →
    changed.get? slidesKey = some (.array [])

theorem deckKept_withSlides {deck : Json.Members} {entries : List Json}
    (h : SlidesKept (slides deck) entries) : DeckKept deck (withSlides deck entries) where
  other key hkey := Entries.get?_set_of_ne hkey _ _
  keys := Entries.keys_set _ _ _
  slides := ⟨entries, Entries.get?_set_self _ _ _, h⟩
  noList hno := by
    have hnil : Deck.slides deck = [] := by
      unfold Deck.slides
      split
      · rename_i found hfound
        exact absurd hfound (hno found)
      · rfl
    rw [SlidesKept, hnil, List.forall₂_nil_left_iff] at h
    rw [h]
    exact Entries.get?_set_self _ _ _

end Deck
end DeckEdit
