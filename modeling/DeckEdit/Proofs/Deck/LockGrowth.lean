import DeckEdit.Proofs.Copy
import DeckEdit.Proofs.Deck.LockCheck

/-! More lock data never unlocks. Where data marks an element in some encoding, data that has more in it
    marks it in the same one. So a lock stops no fewer operations of a batch, although the operations
    before them may come to something else in the two runs. -/

namespace DeckEdit
namespace Lock
variable {locks more : Value} {objectId slideKey name : Text}

/-! ### Growth -/

/-- What a value that stands under a key may come to. A mapping keeps the keys that are texts, each with a
    value that has grown in the same sense; its other keys lock nothing, and only count for it not being
    empty. A value that is no mapping is looked at as a flag only, so it may become any other that is not
    less true: one that it is equal to, such as the same number as a floating-point number, is no less
    true. -/
inductive Grows : Value → Value → Prop
  | same (v : Value) : Grows v v
  | flag {v w : Value} (hflag : v.entries? = none) (htrue : v.isTruthy = true → w.isTruthy = true) :
      Grows v w
  | mapping {entries others : Entries Value.Key Value}
      (hkept : ∀ name : Text, (Entries.get? (.text name) entries).isSome →
        (Entries.get? (.text name) others).isSome)
      (hgrows : ∀ (name : Text) (v w : Value), Entries.get? (.text name) entries = some v →
        Entries.get? (.text name) others = some w → Grows v w)
      (hfilled : entries ≠ [] → others ≠ []) : Grows (.dict entries) (.dict others)

/-- The items of lock data that is a sequence. -/
def items? : Value → Option (List Value)
  | .list items => some items
  | .tuple items => some items
  | _ => none

/-- Lock data that has more in it: a sequence with the texts of the other among its items, or a mapping that
    has grown. -/
inductive Extends : Value → Value → Prop
  | sequence {locks more : Value} {items others : List Value} (hitems : items? locks = some items)
      (hothers : items? more = some others) (htexts : ∀ t, Value.text t ∈ items → Value.text t ∈ others) :
      Extends locks more
  | mapping {entries others : Entries Value.Key Value} (h : Grows (.dict entries) (.dict others)) :
      Extends (.dict entries) (.dict others)

/-- A mapping of texts grows entry by entry. -/
theorem Grows.of_entries {entries others : Entries Value.Key Value}
    (h : ∀ k v, (k, v) ∈ entries → ∃ (name : Text) (w : Value),
      k = .text name ∧ Entries.get? k others = some w ∧ Grows v w) :
    Grows (.dict entries) (.dict others) := by
  have hfound {name : Text} {v : Value} (hget : Entries.get? (.text name) entries = some v) :
      ∃ w, Entries.get? (.text name) others = some w ∧ Grows v w := by
    obtain ⟨-, w, -, hother, hgrows⟩ := h _ _ (Value.mem_of_get? hget)
    exact ⟨w, hother, hgrows⟩
  refine .mapping (fun name hsome => ?_) (fun name v w hget hother => ?_) (fun hne hnil => ?_)
  · obtain ⟨v, hget⟩ := Option.isSome_iff_exists.mp hsome
    obtain ⟨w, hother, -⟩ := hfound hget
    exact Option.isSome_of_eq_some hother
  · obtain ⟨grown, hgrown, hgrows⟩ := hfound hget
    obtain rfl := Option.some.inj (hgrown.symm.trans hother)
    exact hgrows
  · obtain ⟨⟨k, v⟩, hmem⟩ := List.exists_mem_of_ne_nil entries hne
    obtain ⟨name, w, rfl, hother, -⟩ := h _ _ hmem
    cases hnil ▸ hother

theorem Grows.isTruthy {v w : Value} (h : Grows v w) (htrue : v.isTruthy = true) : w.isTruthy = true := by
  cases h with
  | same => exact htrue
  | flag _ hflag => exact hflag htrue
  | mapping _ _ hfilled =>
    simp only [Value.isTruthy, Bool.not_eq_true', List.isEmpty_eq_false_iff] at htrue ⊢
    exact hfilled htrue

/-- What is there stays there, grown. -/
theorem Grows.exists_get? {v w found : Value} (h : Grows v w) (hget : v.get? name = some found) :
    ∃ grown, w.get? name = some grown ∧ Grows found grown := by
  cases h with
  | same => exact ⟨found, hget, .same found⟩
  | flag hflag =>
    rw [Value.get?, hflag] at hget
    cases hget
  | @mapping entries others hkept hgrows =>
    have hfound : Entries.get? (.text name) entries = some found := hget
    obtain ⟨grown, hgrown⟩ := Option.isSome_iff_exists.mp (hkept name (Option.isSome_of_eq_some hfound))
    exact ⟨grown, hgrown, hgrows name found grown hfound hgrown⟩

/-! ### Marks -/

theorem flagged_of_grows {root other : Value} (h : Grows root other)
    (hflagged : flagged root objectId slideKey = true) : flagged other objectId slideKey = true := by
  obtain ⟨elements, flag, hslide, helement, htrue⟩ := flagged_iff.mp hflagged
  obtain ⟨elements', hslide', helements⟩ := h.exists_get? hslide
  obtain ⟨flag', helement', hflag⟩ := helements.exists_get? helement
  exact flagged_iff.mpr ⟨elements', flag', hslide', helement', hflag.isTruthy htrue⟩

theorem listed_iff : listed locks objectId slideKey = true ↔
    ∃ items, items? locks = some items ∧ Value.text (token slideKey objectId) ∈ items := by
  have hholds (items : List Value) :
      (items.filterMap Value.text?).contains (token slideKey objectId) = true ↔
        Value.text (token slideKey objectId) ∈ items := by
    rw [List.contains_iff_mem, List.mem_filterMap]
    constructor
    · rintro ⟨v, hv, htext⟩
      cases v <;> cases htext
      exact hv
    · intro hmem
      exact ⟨_, hmem, rfl⟩
  cases locks with
  | list items | tuple items =>
    simp only [items?, Option.some.injEq, exists_eq_left']
    exact hholds items
  | _ => simp [listed, items?]

/-- Data in which something stands under a key is a mapping, and so has grown as one. -/
theorem Extends.grows {found : Value} (h : Extends locks more) (hget : locks.get? name = some found) :
    Grows locks more := by
  cases h with
  | sequence hitems =>
    cases locks <;> cases hitems
    all_goals cases hget
  | mapping h => exact h

/-- The encoding in which data marks an element marks it when there is more data, too. -/
theorem Extends.marks (h : Extends locks more) {encoding : Encoding}
    (hmarks : Lock.marks locks objectId slideKey encoding = true) :
    Lock.marks more objectId slideKey encoding = true := by
  cases encoding with
  | tokenList =>
    obtain ⟨items, hlist, htoken⟩ := listed_iff.mp hmarks
    cases h with
    | sequence hitems hothers htexts =>
      obtain rfl := Option.some.inj (hlist.symm.trans hitems)
      exact listed_iff.mpr ⟨_, hothers, htexts _ htoken⟩
    | mapping => cases hlist
  | nested =>
    obtain ⟨elements, flag, hslide, -⟩ := flagged_iff.mp hmarks
    exact flagged_of_grows (h.grows hslide) hmarks
  | dotted =>
    obtain ⟨flag, hget, htrue⟩ := marks_dotted_iff.mp hmarks
    obtain ⟨flag', hget', hflag⟩ := (h.grows hget).exists_get? hget
    exact marks_dotted_iff.mpr ⟨flag', hget', hflag.isTruthy htrue⟩
  | wrapped =>
    obtain ⟨container, hget, hflagged⟩ := marks_wrapped_iff.mp hmarks
    obtain ⟨container', hget', hcontainer⟩ := (h.grows hget).exists_get? hget
    exact marks_wrapped_iff.mpr ⟨container', hget', flagged_of_grows hcontainer hflagged⟩

theorem Extends.isLocked {slideId : Option Text} {slideIndex : Option Int} (h : Extends locks more)
    (hlocked : Lock.isLocked locks objectId slideId slideIndex = true) :
    Lock.isLocked more objectId slideId slideIndex = true := by
  obtain ⟨hobject, slideKey, hkey, encoding, hmarks⟩ := isLocked_iff.mp hlocked
  exact isLocked_iff.mpr ⟨hobject, slideKey, hkey, encoding, h.marks hmarks⟩

end Lock

namespace Deck
variable {locks more : Value}

theorem Stopped.of_extends {slides : List Json} {op : Op} (h : Lock.Extends locks more)
    (hstopped : Stopped locks slides op) : Stopped more slides op := by
  obtain ⟨p, slide, hfound, hlock⟩ := hstopped
  exact ⟨p, slide, hfound, h.isLocked hlock⟩

/-- What is locked stays locked when there is more lock data. So an operation that a lock stops is stopped
    then, too, whatever the operations before it come to in the two runs. -/
theorem locked_of_extends (h : Lock.Extends locks more) :
    (∀ objectId slideId slideIndex, Lock.isLocked locks objectId slideId slideIndex = true →
      Lock.isLocked more objectId slideId slideIndex = true) ∧
    ∀ {document : Value} {ops : List Op} {result stricter : Result},
      apply document locks ops = .ok result → apply document more ops = .ok stricter →
      ∀ k ∈ result.positions .locked, k ∈ stricter.positions .locked := by
  refine ⟨fun _ _ _ => h.isLocked, ?_⟩
  intro document ops result stricter hrun hstricter k hk
  obtain ⟨deck, -, -, hdeck, -, -⟩ := apply_eq_ok.mp hrun
  have hnamed : ops[k]? ∈ (result.opsWith .locked).map some :=
    (accounts_of_apply hrun).named .locked ▸ List.mem_map_of_mem hk
  obtain ⟨op, -, hop⟩ := List.mem_map.mp hnamed
  have hstopped := (mem_positions_locked hrun hdeck hop.symm).mp hk
  exact (mem_positions_locked hstricter hdeck hop.symm).mpr (hstopped.of_extends h)

/-- A flag in a nested map, and a list, which is no mapping, under another key. -/
def fewLocks : Entries Value.Key Value :=
  [(.text Lock.containerKey, .dict [(.text "s1", .dict [(.text "title", .int 1)])]),
    (.text "old", .list [])]

/-- The same with a flag for the other element, with `1.0` for `1`, and with a key in dotted encoding. -/
def mixedLocks : Entries Value.Key Value :=
  [(.text "1.note", .bool true),
    (.text Lock.containerKey, .dict [(.text "s1", .dict [(.text "note", .bool false),
      (.text "title", .float (.ofInt 1))])]),
    (.text "old", .list [])]

/-- With the element's neighbour locked as well, the first operation does not give it its id; the others are
    stopped as before. -/
theorem locked_of_extends_mixed :
    Lock.Extends (.dict fewLocks) (.dict mixedLocks) ∧
      ∃ result stricter, apply (.ofJson (.object lockedDeck)) (.dict fewLocks) lockedOps = .ok result ∧
        apply (.ofJson (.object lockedDeck)) (.dict mixedLocks) lockedOps = .ok stricter ∧
        result.positions .locked = [1, 2, 3, 4] ∧ 4 ∈ stricter.positions .locked := by
  have helements : Lock.Grows (.dict [(.text "title", .int 1)])
      (.dict [(.text "note", .bool false), (.text "title", .float (.ofInt 1))]) :=
    .of_entries fun k v hmem => by
      cases List.mem_singleton.mp hmem
      exact ⟨"title", _, rfl, rfl, .flag rfl fun _ => rfl⟩
  have hslides : Lock.Grows (.dict [(.text "s1", .dict [(.text "title", .int 1)])])
      (.dict [(.text "s1", .dict [(.text "note", .bool false), (.text "title", .float (.ofInt 1))])]) :=
    .of_entries fun k v hmem => by
      cases List.mem_singleton.mp hmem
      exact ⟨"s1", _, rfl, rfl, helements⟩
  have hmixed : Lock.Grows (.dict fewLocks) (.dict mixedLocks) :=
    .of_entries fun k v hmem => by
      rcases List.mem_pair.mp hmem with heq | heq
      · cases heq
        exact ⟨Lock.containerKey, _, rfl, rfl, hslides⟩
      · cases heq
        exact ⟨"old", _, rfl, rfl, .same _⟩
  have hrun : apply (.ofJson (.object lockedDeck)) (.dict fewLocks) lockedOps = .ok _ := rfl
  have hstricter : apply (.ofJson (.object lockedDeck)) (.dict mixedLocks) lockedOps = .ok _ := rfl
  have hextends := Lock.Extends.mapping hmixed
  exact ⟨hextends, _, _, hrun, hstricter, rfl,
    (locked_of_extends hextends).2 hrun hstricter 4 (by decide)⟩

end Deck
end DeckEdit
