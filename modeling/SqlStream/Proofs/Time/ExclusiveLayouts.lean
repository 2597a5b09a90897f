import SqlStream.Proofs.Time.ReadBack

/-!
# Layouts that exclude each other

No text fits two of the layouts of a timestamp. Layouts with a common front read alike there. Where
they part, one of them ends, or they go on with items that no text begins with both (`Layout.fork`),
so that no text is read in both (`Layout.read_eq_none_or`). Where every two layouts part, a text has
one reading at most, and the order in which they are tried decides nothing (`layouts_exclusive`).
-/

namespace SqlStream.Time

open SqlStream.Text

/-! ## First characters -/

section Begins

variable {parts : Parts} {s : List Char}

/-- The characters that the text of a part may begin with. -/
def Field.begins : Field → Char → Bool
  | year, c => c.isDigit || c == '-' || c == '+'
  | offset, c => c == '-' || c == '+'
  | _, c => c.isDigit

/-- The characters that the text of an item may begin with. -/
def LayoutItem.begins : LayoutItem → Char → Bool
  | literal d, c => c == d
  | field f, c => f.begins c

theorem any_head?_of_readPair {set : Nat → Parts} {next : Parts × List Char}
    (h : readPair set s = some next) : s.head?.any Char.isDigit = true := by
  obtain ⟨_, hread, -⟩ := Option.map_eq_some_iff.mp h
  exact any_head?_of_readFixed hread

/-- In front of a digit there may be a sign. -/
theorem any_head?_of_readOptionalSign
    (h : (readOptionalSign s).2.head?.any Char.isDigit = true) :
    s.head?.any Field.year.begins = true := by
  unfold readOptionalSign at h
  split at h
  · rfl
  · rfl
  · cases s with
    | nil => cases h
    | cons c s => simp [Field.begins, show c.isDigit = true from h]

/-- What is read as a part begins like one. -/
theorem Field.any_head?_begins {f : Field} {next : Parts × List Char}
    (h : f.read parts s = some next) : s.head?.any f.begins = true := by
  cases f with
  | month | day | hour | minute | second =>
    rw [Field.read] at h
    exact any_head?_of_readPair h
  | year =>
    obtain ⟨_, hread, -⟩ := Option.bind_eq_some_iff.mp h
    exact any_head?_of_readOptionalSign (any_head?_of_readFixed hread)
  | fraction =>
    simp only [Field.read, Option.ite_none_left_eq_some] at h
    cases s with
    | nil => exact absurd rfl h.1
    | cons c s =>
      by_cases hc : c.isDigit = true
      · exact hc
      · exact absurd (by rw [List.takeWhile_cons_of_neg hc]; rfl) h.1
  | offset =>
    obtain ⟨_, hsign, -⟩ := Option.bind_eq_some_iff.mp h
    unfold readSign? at hsign
    split at hsign
    · rfl
    · rfl
    · cases hsign

/-- What is read as an item begins like one. -/
theorem LayoutItem.any_head?_begins {item : LayoutItem} {next : Parts × List Char}
    (h : item.read parts s = some next) : s.head?.any item.begins = true := by
  cases item with
  | literal c =>
    cases s with
    | nil => cases h
    | cons d s =>
      simp only [LayoutItem.read, Option.ite_none_right_eq_some] at h
      exact beq_iff_eq.mpr h.1.symm
  | field f => exact Field.any_head?_begins h

/-- No item is read from an empty text. -/
theorem LayoutItem.read_nil (item : LayoutItem) : item.read parts [] = none := by
  cases h : item.read parts [] with
  | none => rfl
  | some next => cases any_head?_begins h

/-- True of items if no character begins both. Two parts are never told apart by it. -/
def LayoutItem.apart : LayoutItem → LayoutItem → Bool
  | literal c, literal d => c != d
  | literal c, field f => !f.begins c
  | field f, literal c => !f.begins c
  | field _, field _ => false

theorem LayoutItem.begins_eq_false_of_apart {item other : LayoutItem}
    (h : item.apart other = true) {c : Char} (hc : item.begins c = true) :
    other.begins c = false := by
  cases item with
  | literal d =>
    obtain rfl : c = d := beq_iff_eq.mp hc
    cases other with
    | literal e => exact beq_eq_false_iff_ne.mpr (bne_iff_ne.mp h)
    | field f => exact (Bool.not_eq_true' _).mp h
  | field f =>
    cases other with
    | literal d =>
      refine beq_eq_false_iff_ne.mpr fun heq => ?_
      rw [LayoutItem.apart, ← heq, show f.begins c = true from hc] at h
      cases h
    | field g => cases h

/-- No text is read as both of two such items. -/
theorem LayoutItem.read_eq_none_or {item other : LayoutItem} (h : item.apart other = true)
    (parts : Parts) (s : List Char) : item.read parts s = none ∨ other.read parts s = none := by
  cases s with
  | nil => exact .inl item.read_nil
  | cons c s =>
    cases hitem : item.read parts (c :: s) with
    | none => exact .inl rfl
    | some _ =>
      have hother := begins_eq_false_of_apart h (any_head?_begins hitem)
      refine .inr (Option.eq_none_iff_forall_ne_some.mpr fun _ hread => ?_)
      exact absurd (any_head?_begins hread) (by simp [hother])

end Begins

/-! ## Layouts that part -/

namespace Layout

/-- True of two layouts that part: behind a common front one of them ends, or items follow that no
text begins with both. -/
def fork : Layout → Layout → Bool
  | [], [] => false
  | [], _ :: _ => true
  | _ :: _, [] => true
  | item :: items, other :: others =>
    if item = other then fork items others else item.apart other

/-- Where its first item cannot be read, a layout reads nothing. -/
theorem read_cons_of_none {parts : Parts} {s : List Char} {item : LayoutItem}
    (h : item.read parts s = none) (items : Layout) : read parts s (item :: items) = none := by
  rw [Layout.read, h]
  rfl

/-- No text is read in both of two layouts that part. -/
theorem read_eq_none_or {layout other : Layout} (h : layout.fork other = true) (parts : Parts)
    (s : List Char) : layout.read parts s = none ∨ other.read parts s = none := by
  induction layout, other using fork.induct generalizing parts s with
  | case1 => cases h
  | case2 item items =>
    cases s with
    | nil => exact .inr (read_cons_of_none item.read_nil items)
    | cons c s => exact .inl rfl
  | case3 item items =>
    cases s with
    | nil => exact .inl (read_cons_of_none item.read_nil items)
    | cons c s => exact .inr rfl
  | case4 items item others ih =>
    -- Both read the common item alike, and go on with the same parts and the same rest.
    rw [fork, if_pos rfl] at h
    cases hitem : item.read parts s with
    | none => exact .inl (read_cons_of_none hitem items)
    | some next =>
      simp only [Layout.read, hitem, Option.bind_eq_bind, Option.bind_some]
      exact ih h next.1 next.2
  | case5 item items other others hne =>
    rw [fork, if_neg hne] at h
    rcases LayoutItem.read_eq_none_or h parts s with hitem | hother
    · exact .inl (read_cons_of_none hitem items)
    · exact .inr (read_cons_of_none hother others)

theorem timestamp?_eq_none_of_read {layout : Layout} {text : String}
    (h : layout.read {} text.toList = none) : layout.timestamp? text = none := by
  rw [timestamp?, h]
  rfl

/-- No text gives timestamps in both of them. -/
theorem timestamp?_eq_none_or {layout other : Layout} (h : layout.fork other = true)
    (text : String) : layout.timestamp? text = none ∨ other.timestamp? text = none :=
  (read_eq_none_or h {} text.toList).imp timestamp?_eq_none_of_read timestamp?_eq_none_of_read

/-- Every two of the layouts of timestamps part. -/
theorem pairwise_fork_all : all.Pairwise fun layout other => layout.fork other = true := by
  decide

end Layout

/-! ## One reading at most -/

section Readings

variable {α β : Type} {f : α → Option β} {l order : List α}

/-- Of functions that exclude each other one gives a result at most. -/
theorem countP_isSome_le_one (h : l.Pairwise fun a b => f a = none ∨ f b = none) :
    l.countP (fun a => (f a).isSome) ≤ 1 := by
  induction l with
  | nil => exact Nat.zero_le 1
  | cons a l ih =>
    obtain ⟨hhead, htail⟩ := List.pairwise_cons.mp h
    cases ha : f a with
    | none =>
      rw [List.countP_cons_of_neg (by simp [ha])]
      exact ih htail
    | some b =>
      have hrest : l.countP (fun a => (f a).isSome) = 0 := by
        refine List.countP_eq_zero.mpr fun c hc => ?_
        simpa [ha] using hhead c hc
      rw [List.countP_cons_of_pos (by simp [ha]), hrest]

/-- So it does not matter in which order they are tried. -/
theorem findSome?_eq_of_perm (h : l.countP (fun a => (f a).isSome) ≤ 1) (hperm : order.Perm l) :
    order.findSome? f = l.findSome? f := by
  have hresults : order.filterMap f = l.filterMap f := by
    have hmoved := hperm.filterMap f
    rw [← List.length_filterMap_eq_countP] at h
    generalize l.filterMap f = results at h hmoved ⊢
    match results with
    | [] => exact hmoved.eq_nil
    | [_] => exact hmoved.eq_singleton
  rw [← List.head?_filterMap, hresults, List.head?_filterMap]

end Readings

/-! ## No layout is idle -/

/-- The first instant of a day in UTC. -/
def Date.midnight (date : Date) : Timestamp :=
  ⟨date, ⟨0, 0, 0, 0, by decide, by decide, by decide, by decide⟩, .utc⟩

/-- The text of an item where everything is zero. -/
def LayoutItem.zeros : LayoutItem → List Char
  | literal c => [c]
  | field .year => ['0', '0', '0', '0']
  | field .fraction => ['0']
  | field .offset => ['+', '0', '0', ':', '0', '0']
  | field _ => ['0', '0']

namespace Layout

/-- The items behind the date of a layout that begins with one. -/
def behindDate (layout : Layout) : Layout :=
  layout.drop date.length

theorem date_append_behindDate {layout : Layout} (h : layout ∈ all) :
    date ++ layout.behindDate = layout :=
  (by decide : ∀ layout ∈ all, date ++ layout.behindDate = layout) layout h

/-- Zeros behind a date add nothing to what is read of that. -/
theorem readFront_zeros {layout : Layout} (h : layout ∈ all) (date : Date) :
    readFront { year := date.year, month := date.month, day := date.day }
      (layout.behindDate.flatMap LayoutItem.zeros) layout.behindDate =
    some (date.midnight.parts, []) := by
  simp only [all, List.mem_cons, List.not_mem_nil, or_false] at h
  rcases h with rfl | rfl | rfl | rfl | rfl | rfl | rfl | rfl | rfl | rfl | rfl <;> rfl

/-- The text of a midnight in a layout that begins with the date. -/
def midnightText (layout : Layout) (date : Date) : String :=
  String.ofList (date.text ++ layout.behindDate.flatMap LayoutItem.zeros)

/-- Every layout gives the midnights. -/
theorem timestamp?_midnightText {layout : Layout} (h : layout ∈ all) (date : Date) :
    layout.timestamp? (layout.midnightText date) = some date.midnight := by
  have hread : readFront {} (layout.midnightText date).toList layout =
      some (date.midnight.parts, []) := by
    rw [midnightText, String.toList_ofList, ← readFront_zeros h,
      ← readFront_append (readFront_date date _), date_append_behindDate h]
  rw [timestamp?_eq hread, Timestamp.timestamp?_parts]
  rfl

end Layout

/-! ## The layouts of timestamps -/

/-- No text gives a timestamp in two of the eleven layouts, so that they can be tried in any order.
None of them is idle: each gives the midnights of all dates. -/
theorem layouts_exclusive :
    (∀ text : String,
      (Layout.all.countP fun layout => (layout.timestamp? text).isSome) ≤ 1 ∧
      ∀ order : List Layout, order.Perm Layout.all →
        (order.findSome? fun layout => layout.timestamp? text) = Timestamp.parse? text) ∧
    ∀ layout ∈ Layout.all, ∀ date : Date, ∃ text, layout.timestamp? text = some date.midnight := by
  refine ⟨fun text => ?_, fun layout h date => ⟨_, Layout.timestamp?_midnightText h date⟩⟩
  have hexclusive := Layout.pairwise_fork_all.imp fun hfork =>
    Layout.timestamp?_eq_none_or hfork text
  have hone := countP_isSome_le_one hexclusive
  exact ⟨hone, fun order hperm => findSome?_eq_of_perm hone hperm⟩

/-- From the last to the first, the layouts give what they give from the first to the last for a
text with a sign, a `T`, a fraction and an offset, and the layout before the last gives a
midnight. -/
theorem layouts_exclusive_of_reversed :
    Layout.all.reverse.Perm Layout.all ∧
    (Layout.all.reverse.findSome? fun layout =>
      layout.timestamp? "+2024-02-29T10:20:30.50-07:00").map Timestamp.format =
        some "2024-02-29 10:20:30.5-07:00" ∧
    Layout.minutes 'T' ∈ Layout.all ∧
    ∃ text, (Layout.minutes 'T').timestamp? text =
      some (Date.midnight ⟨2024, 2, 29, by decide, by decide, by decide⟩) := by
  have hperm := Layout.all.reverse_perm
  refine ⟨hperm, ?_, by decide, layouts_exclusive.2 _ (by decide) _⟩
  rw [(layouts_exclusive.1 _).2 _ hperm]
  decide +kernel

end SqlStream.Time
