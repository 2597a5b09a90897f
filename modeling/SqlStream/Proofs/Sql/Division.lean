import SqlStream.Proofs.Sql.Locality
import SqlStream.Proofs.Sql.Phases

/-!
# Scripts as statements and gaps

What the splitter makes of the lexemes of a script: statements with gaps between them. A statement
begins and ends with a token and has no open comment; a gap holds blanks, comments, separators and a
comment left open. `Division` says so of a list of lexemes. `Splits` says which division it is that
the splitter finds, by the phases of reading: every list has one (`exists_splits`), and it gives the
statements and how the text ends (`Splits.splitStatements_eq`).
-/

namespace SqlStream.Sql

open SqlStream.Text

/-! ## Divisions -/

/-- A lexeme that is a token. -/
def Lexeme.isToken (x : Lexeme) : Bool :=
  x.tokenKind?.isSome

/-- A lexeme that can stand between statements. -/
def Lexeme.isGap (x : Lexeme) : Bool :=
  match x.tokenKind? with
  | none | some .semicolon | some .unterminatedComment => true
  | _ => false

/-- No comment is left open among lexemes. -/
def CommentsClosed (xs : List Lexeme) : Prop :=
  ∀ x ∈ xs, x.tokenKind? ≠ some .unterminatedComment

theorem CommentsClosed.not_mem_kindsOf {xs : List Lexeme} (h : CommentsClosed xs) :
    .unterminatedComment ∉ kindsOf xs := by
  intro hmem
  obtain ⟨x, hx, hkind⟩ := List.mem_filterMap.mp hmem
  exact h x hx hkind

/-- Lexemes that make up a statement. -/
structure IsStatement (xs : List Lexeme) : Prop where
  first : xs.head?.any Lexeme.isToken = true
  last : xs.getLast?.any Lexeme.isToken = true
  closed : CommentsClosed xs

/-- Lexemes that consist of statements, in order, with gaps around them. The tokens of a statement
hold together, and the first token behind them does not go on with it. -/
inductive Division : List Lexeme → List (List Lexeme) → Prop where
  | gap {xs : List Lexeme} : (∀ x ∈ xs, x.isGap = true) → Division xs []
  | statement {gap body rest : List Lexeme} {bodies : List (List Lexeme)} {phase : Phase} :
      (∀ x ∈ gap, x.isGap = true) → IsStatement body →
      statementPhase? (kindsOf body) = some phase →
      (∀ kind ∈ (kindsOf rest).head?, phase.afterToken? kind = none) → Division rest bodies →
      Division (gap ++ body ++ rest) (body :: bodies)

/-- Lexemes are those of a gap if their tokens are. -/
theorem isGap_of_kinds {xs : List Lexeme} (h : ∀ kind ∈ kindsOf xs, kind.bounds = true) :
    ∀ x ∈ xs, x.isGap = true := by
  intro x hx
  rw [Lexeme.isGap]
  cases hkind : x.tokenKind? with
  | none => rfl
  | some kind =>
    have := h kind (List.mem_filterMap.mpr ⟨x, hx, hkind⟩)
    rw [TokenKind.bounds, Bool.or_eq_true, decide_eq_true_eq, decide_eq_true_eq] at this
    rcases this with rfl | rfl <;> rfl

/-- A gap before a division is part of its first gap. -/
theorem Division.gap_append {gap xs : List Lexeme} {bodies : List (List Lexeme)}
    (hgap : ∀ x ∈ gap, x.isGap = true) (h : Division xs bodies) : Division (gap ++ xs) bodies := by
  cases h with
  | gap hxs => exact .gap fun x hx => (List.mem_append.mp hx).elim (hgap x) (hxs x)
  | statement hgap' hbody hphase hstop hrest =>
    rw [← List.append_assoc, ← List.append_assoc]
    exact .statement (fun x hx => (List.mem_append.mp hx).elim (hgap x) (hgap' x)) hbody hphase
      hstop hrest

/-! ## The division that the splitter finds -/

/-- Lexemes as the splitter divides them, and whether they end in a trigger. Separators are skipped
between statements; the tokens of a statement hold together, and a separator or the end of the text
is behind it. -/
inductive Splits : List Lexeme → List (List Lexeme) → Bool → Prop where
  | gap {xs : List Lexeme} : (∀ kind ∈ kindsOf xs, kind.bounds = true) → Splits xs [] false
  | last {gap body trail : List Lexeme} {phase : Phase} :
      (∀ kind ∈ kindsOf gap, kind = .semicolon) → IsStatement body →
      statementPhase? (kindsOf body) = some phase →
      (∀ kind ∈ kindsOf trail, kind = .unterminatedComment) →
      Splits (gap ++ (body ++ trail)) [body] phase.inTrigger
  | statement {gap body trail rest : List Lexeme} {x : Lexeme} {bodies : List (List Lexeme)}
      {inTrigger : Bool} :
      (∀ kind ∈ kindsOf gap, kind = .semicolon) → IsStatement body →
      statementPhase? (kindsOf body) = some .plain → kindsOf trail = [] →
      x.tokenKind? = some .semicolon → Splits rest bodies inTrigger →
      Splits (gap ++ (body ++ (trail ++ x :: rest))) (body :: bodies) inTrigger

namespace Splits

variable {xs : List Lexeme} {bodies : List (List Lexeme)} {inTrigger : Bool}

/-- A gap before what is divided is part of its first gap. -/
theorem gap_append {gap : List Lexeme} (hgap : ∀ kind ∈ kindsOf gap, kind = .semicolon)
    (h : Splits xs bodies inTrigger) : Splits (gap ++ xs) bodies inTrigger := by
  have happend : ∀ {more : List Lexeme}, (∀ kind ∈ kindsOf more, kind = .semicolon) →
      ∀ kind ∈ kindsOf (gap ++ more), kind = .semicolon := by
    intro more hmore kind hkind
    rw [kindsOf_append, List.mem_append] at hkind
    exact hkind.elim (hgap kind) (hmore kind)
  cases h with
  | gap hxs =>
    refine .gap fun kind hkind => ?_
    rw [kindsOf_append, List.mem_append] at hkind
    rcases hkind with hkind | hkind
    · rw [hgap kind hkind]
      rfl
    · exact hxs kind hkind
  | last hgap' hbody hphase htrail =>
    rw [← List.append_assoc]
    exact .last (happend hgap') hbody hphase htrail
  | statement hgap' hbody hphase htrail hx hrest =>
    rw [← List.append_assoc]
    exact .statement (happend hgap') hbody hphase htrail hx hrest

/-- What the splitter divides is divided. -/
theorem division (h : Splits xs bodies inTrigger) : Division xs bodies := by
  induction h with
  | gap hxs => exact .gap (isGap_of_kinds hxs)
  | last hgap hbody hphase htrail =>
    rw [← List.append_assoc]
    refine .statement (isGap_of_kinds fun kind hkind => ?_) hbody hphase (fun kind hkind => ?_)
      (.gap (isGap_of_kinds fun kind hkind => ?_))
    · rw [hgap kind hkind]
      rfl
    · rw [htrail kind (List.mem_of_mem_head? hkind)]
      rfl
    · rw [htrail kind hkind]
      rfl
  | @statement gap body trail rest x _ _ hgap hbody hphase htrail hx _ ih =>
    rw [← List.append_assoc, ← List.singleton_append (l := rest), ← List.append_assoc trail]
    refine .statement (isGap_of_kinds fun kind hkind => ?_) hbody hphase (fun kind hkind => ?_)
      (.gap_append (isGap_of_kinds fun kind hkind => ?_) ih)
    · rw [hgap kind hkind]
      rfl
    · obtain rfl : kind = .semicolon := by simpa [htrail, hx, eq_comm] using hkind
      rfl
    · obtain rfl : kind = .semicolon := by simpa [htrail, hx] using hkind
      rfl

/-- The statements of a script are stretches of it that hold together. -/
theorem of_mem (h : Splits xs bodies inTrigger) {body : List Lexeme} (hmem : body ∈ bodies) :
    IsStatement body ∧ (statementPhase? (kindsOf body)).isSome = true ∧
      ∃ pre post, xs = pre ++ body ++ post := by
  induction h with
  | gap => cases hmem
  | @last gap _ trail _ _ hbody hphase _ =>
    obtain rfl := List.mem_singleton.mp hmem
    exact ⟨hbody, by rw [hphase]; rfl, gap, trail, (List.append_assoc _ _ _).symm⟩
  | @statement gap first trail rest x _ _ _ hbody hphase _ _ _ ih =>
    rcases List.mem_cons.mp hmem with rfl | hmem
    · exact ⟨hbody, by rw [hphase]; rfl, gap, trail ++ x :: rest, (List.append_assoc _ _ _).symm⟩
    · obtain ⟨hstatement, hphase, pre, post, rfl⟩ := ih hmem
      exact ⟨hstatement, hphase, gap ++ (first ++ (trail ++ x :: pre)), post, by simp⟩

/-- The last statement, without a gap in front. -/
theorem last_of_body {body trail : List Lexeme} {phase : Phase} (hbody : IsStatement body)
    (hphase : statementPhase? (kindsOf body) = some phase)
    (htrail : ∀ kind ∈ kindsOf trail, kind = .unterminatedComment) :
    Splits (body ++ trail) [body] phase.inTrigger := by
  show Splits ([] ++ (body ++ trail)) [body] phase.inTrigger
  exact .last (by simp) hbody hphase htrail

/-- A statement and what is behind its separator, without a gap in front. -/
theorem statement_of_body {body trail : List Lexeme} {x : Lexeme} (hbody : IsStatement body)
    (hphase : statementPhase? (kindsOf body) = some .plain) (htrail : kindsOf trail = [])
    (hx : x.tokenKind? = some .semicolon) (h : Splits xs bodies inTrigger) :
    Splits (body ++ (trail ++ x :: xs)) (body :: bodies) inTrigger := by
  show Splits ([] ++ (body ++ (trail ++ x :: xs))) (body :: bodies) inTrigger
  exact .statement (by simp) hbody hphase htrail hx h

/-- A statement by itself is divided into itself. -/
theorem single {body : List Lexeme} {phase : Phase} (hbody : IsStatement body)
    (hphase : statementPhase? (kindsOf body) = some phase) : Splits body [body] phase.inTrigger := by
  have h := last_of_body hbody hphase (by simp : ∀ kind ∈ kindsOf [], kind = .unterminatedComment)
  rwa [List.append_nil] at h

end Splits

/-! ## Reading finds it -/

/-- What ends a text whose last tokens are of no statement. -/
def Ending.behind (kinds : List TokenKind) : Ending :=
  if .unterminatedComment ∈ kinds then .openComment else .endOfText

@[simp] theorem Ending.behind_ne_separator (kinds : List TokenKind) :
    Ending.behind kinds ≠ .separator := by
  unfold Ending.behind
  split <;> simp

@[simp] theorem Ending.behind_eq_openComment (kinds : List TokenKind) :
    Ending.behind kinds = .openComment ↔ .unterminatedComment ∈ kinds := by
  unfold Ending.behind
  split <;> simp [*]

namespace Stretch

/-- A statement is read from its first token on, if what is behind it does not go on with it. -/
theorem read_statement {body : List Lexeme} {phase : Phase} (hbody : IsStatement body)
    (hphase : statementPhase? (kindsOf body) = some phase) (last : Option TokenKind)
    {ys : List Lexeme} (hys : ∀ kind ∈ (kindsOf ys).head?, kind.bounds = true) :
    read .between [] last (body ++ ys) = read phase body.reverse (lastKind last body) ys := by
  cases body with
  | nil => exact absurd hbody.first (by simp)
  | cons x body =>
    have hfirst : x.isToken = true := by simpa using hbody.first
    obtain ⟨kind, hx⟩ := Option.isSome_iff_exists.mp hfirst
    simp only [kindsOf_cons, hx, Option.toList_some, List.singleton_append, statementPhase?] at hphase
    split at hphase
    · cases hphase
    · rename_i hbounds
      rw [TokenKind.bounds, Bool.or_eq_true, decide_eq_true_eq, decide_eq_true_eq, not_or] at hbounds
      have hafter : Phase.afterFirstToken kind (body ++ ys) = firstPhase kind (kindsOf body) := by
        rw [afterFirstToken_eq, kindsOf_append, firstPhase, openTrigger_append hys, firstPhase]
      rw [List.cons_append, read]
      split
      · next hnone => rw [hx] at hnone; cases hnone
      · next hcomment => exact absurd (Option.some.inj (hx.symm.trans hcomment)) hbounds.2
      · next found _ hfound =>
        obtain rfl := Option.some.inj (hx.symm.trans hfound)
        simp only [if_neg hbounds.1, hafter]
        rw [read_inside (firstPhase_ne_between _ _) hphase, List.reverse_cons, lastKind_cons, hx]
        rfl

/-- The lexemes of a statement are those taken, up to the last token. -/
theorem lexemes_eq {stretch : Stretch} {body trail : List Lexeme} (hbody : IsStatement body)
    (htrail : kindsOf trail = []) (htaken : stretch.taken = trail.reverse ++ body.reverse) :
    stretch.lexemes = body := by
  have hloose : ∀ x ∈ trail.reverse, x.tokenKind?.isNone = true := by
    intro x hx
    simpa using List.filterMap_eq_nil_iff.mp htrail x (List.mem_reverse.mp hx)
  rw [Stretch.lexemes, htaken, List.dropWhile_append_of_pos hloose]
  cases hrev : body.reverse with
  | nil => simp [List.reverse_eq_nil_iff.mp hrev]
  | cons x rest =>
    have hlast := hbody.last
    rw [List.getLast?_eq_head?_reverse, hrev] at hlast
    have hx : x.tokenKind?.isNone = false := by
      simpa [Lexeme.isToken, Option.isSome_iff_ne_none] using hlast
    rw [List.dropWhile_cons_of_neg (by simp [hx]), ← hrev, List.reverse_reverse]

/-- Behind a statement, reading goes on to the end of the text or to an open comment. -/
theorem read_trail {phase : Phase} (hphase : phase ≠ .between) {trail : List Lexeme}
    (htrail : ∀ kind ∈ kindsOf trail, kind = .unterminatedComment) (taken : List Lexeme)
    (last : Option TokenKind) : ∃ loose, kindsOf loose = [] ∧
      read phase taken last trail =
        ⟨loose.reverse ++ taken, phase, last, [], Ending.behind (kindsOf trail)⟩ := by
  induction trail generalizing taken with
  | nil => exact ⟨[], rfl, rfl⟩
  | cons x trail ih =>
    rw [kindsOf_cons] at htrail
    have hrest := ih fun kind hkind => htrail kind (List.mem_append_right _ hkind)
    rw [read, kindsOf_cons]
    cases hx : x.tokenKind? with
    | none =>
      obtain ⟨loose, hloose, hread⟩ := hrest (x :: taken)
      refine ⟨x :: loose, by rw [kindsOf_cons, hx, hloose]; rfl, ?_⟩
      rw [List.reverse_cons, List.append_assoc]
      simp only [if_neg hphase]
      exact hread
    | some kind =>
      obtain rfl : kind = .unterminatedComment := htrail kind (by simp [hx])
      exact ⟨[], rfl, by simp [Ending.behind]⟩

/-- Between statements, reading goes on to the end of the text or to an open comment. -/
theorem read_gap {gap : List Lexeme} (hgap : ∀ kind ∈ kindsOf gap, kind.bounds = true)
    (last : Option TokenKind) :
    ∃ final, read .between [] last gap = ⟨[], .between, final, [], Ending.behind (kindsOf gap)⟩ := by
  induction gap generalizing last with
  | nil => exact ⟨last, rfl⟩
  | cons x gap ih =>
    rw [kindsOf_cons] at hgap
    have hrest := ih fun kind hkind => hgap kind (List.mem_append_right _ hkind)
    rw [read, kindsOf_cons]
    cases hx : x.tokenKind? with
    | none => exact hrest last
    | some kind =>
      have hbounds := hgap kind (by simp [hx])
      rw [TokenKind.bounds, Bool.or_eq_true, decide_eq_true_eq, decide_eq_true_eq] at hbounds
      rcases hbounds with rfl | rfl
      · simpa [Ending.behind] using hrest (some .semicolon)
      · exact ⟨last, by simp [Ending.behind]⟩

/-- The last statement of a text is read up to the end of the text. -/
theorem read_last {gap body trail : List Lexeme} {phase : Phase}
    (hgap : ∀ kind ∈ kindsOf gap, kind = .semicolon) (hbody : IsStatement body)
    (hphase : statementPhase? (kindsOf body) = some phase)
    (htrail : ∀ kind ∈ kindsOf trail, kind = .unterminatedComment) (last : Option TokenKind) :
    ∃ loose final, kindsOf loose = [] ∧ read .between [] last (gap ++ (body ++ trail)) =
      ⟨loose.reverse ++ body.reverse, phase, final, [], .behind (kindsOf trail)⟩ := by
  have hbounds : ∀ kind ∈ (kindsOf trail).head?, kind.bounds = true := fun kind hkind => by
    rw [htrail kind (List.mem_of_mem_head? hkind)]
    rfl
  obtain ⟨loose, hloose, hread⟩ := read_trail (statementPhase?_ne_between hphase) htrail
    body.reverse (lastKind (lastKind last gap) body)
  exact ⟨loose, _, hloose, by rw [read_between hgap, read_statement hbody hphase _ hbounds, hread]⟩

/-- Any other statement is read up to the separator. -/
theorem read_separated {gap body trail rest : List Lexeme} {x : Lexeme}
    (hgap : ∀ kind ∈ kindsOf gap, kind = .semicolon) (hbody : IsStatement body)
    (hphase : statementPhase? (kindsOf body) = some .plain) (htrail : kindsOf trail = [])
    (hx : x.tokenKind? = some .semicolon) (last : Option TokenKind) :
    read .between [] last (gap ++ (body ++ (trail ++ x :: rest))) =
      ⟨trail.reverse ++ body.reverse, .plain, some .semicolon, rest, .separator⟩ := by
  have hbounds : ∀ kind ∈ (kindsOf (trail ++ x :: rest)).head?, kind.bounds = true := fun kind h => by
    obtain rfl : TokenKind.semicolon = kind := by simpa [htrail, hx] using h
    rfl
  have hloose : Phase.plain.after? (kindsOf trail) = some .plain := by
    rw [htrail]
    rfl
  rw [read_between hgap, read_statement hbody hphase _ hbounds,
    read_inside (statementPhase?_ne_between hphase) hloose, read]
  split
  · next hnone => rw [hx] at hnone; cases hnone
  · next hcomment => rw [hx] at hcomment; cases hcomment
  · next found _ hfound =>
    obtain rfl := Option.some.inj (hx.symm.trans hfound)
    rfl

end Stretch

/-- The text of the lexemes of a statement. -/
def statementText (body : List Lexeme) : String :=
  String.ofList (texts body)

theorem Stretch.statement?_eq {stretch : Stretch} {body trail : List Lexeme}
    (hphase : stretch.phase ≠ .between) (hbody : IsStatement body) (htrail : kindsOf trail = [])
    (htaken : stretch.taken = trail.reverse ++ body.reverse) :
    stretch.statement? = some (statementText body) := by
  rw [Stretch.statement?, if_neg hphase, Stretch.lexemes_eq hbody htrail htaken]
  rfl

namespace Splitter

/-- The stretch that a splitter reads next. -/
def stretch (splitter : Splitter) : Stretch :=
  .read .between [] splitter.info.lastToken splitter.rest

theorem next_info {splitter : Splitter} (hdone : splitter.done = false) :
    splitter.next.2.info = ⟨splitter.stretch.lastToken, splitter.stretch.phase.inTrigger,
      splitter.stretch.ending = .openComment⟩ := by
  simp only [next, hdone, Bool.false_eq_true, if_false]
  rfl

/-- Behind the last stretch, nothing is handed out. -/
theorem drain_go_of_end {splitter : Splitter} (hdone : splitter.done = false)
    (hend : splitter.stretch.ending ≠ .separator) (found : List String) :
    drain.go splitter found =
      ((splitter.stretch.statement?.toList ++ found).reverse, splitter.next.2) := by
  have hnext : splitter.next.2.done = true := by
    simpa [next, hdone, stretch] using hend
  rw [drain.go, if_neg (by simp [hdone]), drain.go, if_pos hnext]
  simp [next, hdone, stretch]

/-- Behind a separator, the splitter goes on. -/
theorem drain_go_of_separator {splitter : Splitter} (hdone : splitter.done = false)
    (hend : splitter.stretch.ending = .separator) (found : List String) :
    drain.go splitter found =
        drain.go splitter.next.2 (splitter.stretch.statement?.toList ++ found) ∧
      splitter.next.2.done = false ∧ splitter.next.2.rest = splitter.stretch.rest := by
  have hgo : drain.go splitter found =
      drain.go splitter.next.2 (splitter.stretch.statement?.toList ++ found) := by
    rw [drain.go, if_neg (by simp [hdone])]
    simp [next, hdone, stretch]
  refine ⟨hgo, ?_, ?_⟩
  · simpa [next, hdone, stretch] using hend
  · simp [next, hdone, stretch]

end Splitter

theorem not_mem_of_semicolons {kinds : List TokenKind} (h : ∀ kind ∈ kinds, kind = .semicolon) :
    .unterminatedComment ∉ kinds :=
  fun hmem => by cases h _ hmem

/-- A splitter hands out the statements of the division and reports how the lexemes end. -/
theorem Splits.drain_go {xs : List Lexeme} {bodies : List (List Lexeme)} {inTrigger : Bool}
    (h : Splits xs bodies inTrigger) (splitter : Splitter) (hdone : splitter.done = false)
    (hrest : splitter.rest = xs) (found : List String) :
    (Splitter.drain.go splitter found).1 = found.reverse ++ bodies.map statementText ∧
      (Splitter.drain.go splitter found).2.info.incompleteTrigger = inTrigger ∧
      (Splitter.drain.go splitter found).2.info.incompleteComment =
        decide (.unterminatedComment ∈ kindsOf xs) := by
  induction h generalizing splitter found with
  | gap hxs =>
    obtain ⟨final, hread⟩ := Stretch.read_gap hxs splitter.info.lastToken
    rw [← hrest] at hread ⊢
    have hstretch : splitter.stretch = _ := hread
    rw [Splitter.drain_go_of_end hdone (by simp [hstretch]), Splitter.next_info hdone, hstretch]
    simp [Stretch.statement?, Phase.inTrigger]
  | last hgap hbody hphase htrail =>
    obtain ⟨loose, final, hloose, hread⟩ :=
      Stretch.read_last hgap hbody hphase htrail splitter.info.lastToken
    rw [← hrest] at hread
    have hstretch : splitter.stretch = _ := hread
    rw [Splitter.drain_go_of_end hdone (by simp [hstretch]), Splitter.next_info hdone, hstretch,
      Stretch.statement?_eq (statementPhase?_ne_between hphase) hbody hloose rfl]
    simp [not_mem_of_semicolons hgap, hbody.closed.not_mem_kindsOf]
  | @statement gap body trail rest x bodies inTrigger hgap hbody hphase htrail hx _ ih =>
    have hread := hrest ▸ Stretch.read_separated hgap hbody hphase htrail hx
      splitter.info.lastToken
    have hstretch : splitter.stretch = _ := hread
    obtain ⟨hgo, hnext, hleft⟩ := Splitter.drain_go_of_separator hdone (by rw [hstretch]) found
    rw [hstretch] at hgo hleft
    obtain ⟨hstatements, htrigger, hcomment⟩ := ih _ hnext hleft
      ((Stretch.statement? _).toList ++ found)
    rw [← hgo, Stretch.statement?_eq (by simp) hbody htrail rfl] at hstatements
    rw [← hgo] at htrigger hcomment
    refine ⟨?_, htrigger, ?_⟩
    · simpa using hstatements
    · rw [hcomment]
      simp [not_mem_of_semicolons hgap, hbody.closed.not_mem_kindsOf, htrail, hx]

/-! ## There always is one -/

/-- No other lexeme follows a comment that is left open. -/
def OpenCommentLast (xs : List Lexeme) : Prop :=
  ∀ pre x post, xs = pre ++ x :: post → x.tokenKind? = some .unterminatedComment → post = []

theorem OpenCommentLast.of_cons {x : Lexeme} {xs : List Lexeme} (h : OpenCommentLast (x :: xs)) :
    OpenCommentLast xs :=
  fun pre y post heq hy => h (x :: pre) y post (by rw [heq]; rfl) hy

theorem OpenCommentLast.of_append {xs ys : List Lexeme} (h : OpenCommentLast (xs ++ ys)) :
    OpenCommentLast ys :=
  fun pre x post heq hx => h (xs ++ pre) x post (by rw [heq, List.append_assoc]) hx

/-- Lexemes from a token on are a statement, without the blanks and comments at their end. -/
theorem exists_isStatement {x : Lexeme} {xs : List Lexeme} (hx : x.isToken = true)
    (hclosed : CommentsClosed (x :: xs)) :
    ∃ body trail, x :: xs = body ++ trail ∧ IsStatement body ∧ kindsOf trail = [] := by
  -- from the end, until the last lexeme is a token
  generalize hlen : xs.length = n
  induction n generalizing xs with
  | zero =>
    obtain rfl := List.eq_nil_of_length_eq_zero hlen
    exact ⟨[x], [], rfl, ⟨by simpa using hx, by simpa using hx, hclosed⟩, rfl⟩
  | succ n ih =>
    rcases List.eq_nil_or_concat xs with rfl | ⟨front, y, rfl⟩
    · cases hlen
    · rw [List.concat_eq_append] at hclosed hlen ⊢
      cases hy : y.tokenKind? with
      | some kind =>
        refine ⟨x :: (front ++ [y]), [], by simp, ⟨by simpa using hx, ?_, hclosed⟩, rfl⟩
        simp [List.getLast?_cons, Lexeme.isToken, hy]
      | none =>
        obtain ⟨body, trail, heq, hbody, htrail⟩ := ih
          (fun z hz => hclosed z (by
            rcases List.mem_cons.mp hz with rfl | hz
            · exact List.mem_cons_self
            · exact List.mem_cons_of_mem _ (List.mem_append_left _ hz)))
          (by simpa using hlen)
        refine ⟨body, trail ++ [y], ?_, hbody, by simp [htrail, hy]⟩
        rw [← List.append_assoc, ← heq, List.cons_append]

/-- Inside a statement, reading goes on to a token that it stops at, or to the end of the text. -/
theorem exists_inside (phase : Phase) (xs : List Lexeme) :
    ∃ body tail next, xs = body ++ tail ∧ phase.after? (kindsOf body) = some next ∧
      ∀ x ∈ tail.head?, ∃ kind, x.tokenKind? = some kind ∧ next.afterToken? kind = none := by
  induction xs generalizing phase with
  | nil => exact ⟨[], [], phase, rfl, rfl, by simp⟩
  | cons x xs ih =>
    cases hx : x.tokenKind? with
    | none =>
      obtain ⟨body, tail, next, rfl, hbody, hstop⟩ := ih phase
      exact ⟨x :: body, tail, next, rfl, by simpa [hx] using hbody, hstop⟩
    | some kind =>
      cases hkind : phase.afterToken? kind with
      | none => exact ⟨[], x :: xs, phase, rfl, rfl, by simp [hx, hkind]⟩
      | some middle =>
        obtain ⟨body, tail, next, rfl, hbody, hstop⟩ := ih middle
        exact ⟨x :: body, tail, next, rfl, by simpa [hx, hkind] using hbody, hstop⟩

/-- The lexemes from the first token of a statement on: the statement, and what is behind it. -/
theorem exists_statement {x : Lexeme} {kind : TokenKind} (hx : x.tokenKind? = some kind)
    (hkind : kind.bounds = false) (xs : List Lexeme) :
    ∃ body trail tail phase, x :: xs = body ++ (trail ++ tail) ∧ IsStatement body ∧
      kindsOf trail = [] ∧ statementPhase? (kindsOf body) = some phase ∧ phase ≠ .between ∧
      ∀ y ∈ tail.head?, ∃ stop, y.tokenKind? = some stop ∧ phase.afterToken? stop = none := by
  obtain ⟨more, tail, phase, rfl, hmore, hstop⟩ := exists_inside (firstPhase kind (kindsOf xs)) xs
  have hphase := Phase.after?_ne_between (firstPhase_ne_between _ _) hmore
  rw [TokenKind.bounds, Bool.or_eq_false_iff, decide_eq_false_iff_not, decide_eq_false_iff_not]
    at hkind
  have hclosed : CommentsClosed (x :: more) := by
    intro y hy hopen
    rcases List.mem_cons.mp hy with rfl | hy
    · exact hkind.2 (Option.some.inj (hx.symm.trans hopen))
    · exact Phase.not_mem_of_after? hmore (List.mem_filterMap.mpr ⟨y, hy, hopen⟩)
  obtain ⟨body, trail, hsplit, hbody, htrail⟩ := exists_isStatement
    (by rw [Lexeme.isToken, hx]; rfl) hclosed
  have hkinds : kindsOf body = kind :: kindsOf more := by
    simpa [htrail, hx] using (congrArg kindsOf hsplit).symm
  -- what is behind the statement does not make it a trigger
  have hfirst : firstPhase kind (kindsOf (more ++ tail)) = firstPhase kind (kindsOf more) := by
    rw [kindsOf_append, firstPhase, openTrigger_append, firstPhase]
    intro stop hmem
    cases tail with
    | nil => simp at hmem
    | cons y tail =>
      obtain ⟨found, hy, hfound⟩ := hstop y rfl
      obtain rfl : found = stop := by simpa [hy] using hmem
      rcases (Phase.afterToken?_eq_none hphase).mp hfound with rfl | ⟨rfl, _⟩ <;> rfl
  refine ⟨body, trail, tail, phase, ?_, hbody, htrail, ?_, hphase, hstop⟩
  · rw [← List.append_assoc, ← hsplit, List.cons_append]
  · rw [hkinds, statementPhase?, if_neg (by simpa [TokenKind.bounds] using hkind), ← hfirst, hmore]

/-- Every list of lexemes in which only the last can be an open comment is divided. -/
theorem exists_splits {xs : List Lexeme} (hlast : OpenCommentLast xs) :
    ∃ bodies inTrigger, Splits xs bodies inTrigger := by
  generalize hlen : xs.length = n
  induction n using Nat.strongRecOn generalizing xs with
  | ind n ih =>
    cases xs with
    | nil => exact ⟨[], false, .gap (by simp)⟩
    | cons x xs =>
      have hxs : OpenCommentLast xs := hlast.of_cons
      have hskip : (∀ kind ∈ kindsOf [x], kind = .semicolon) →
          ∃ bodies inTrigger, Splits (x :: xs) bodies inTrigger := by
        intro hx
        obtain ⟨bodies, inTrigger, h⟩ := ih xs.length (by simp [← hlen]) hxs rfl
        exact ⟨bodies, inTrigger, h.gap_append hx⟩
      cases hx : x.tokenKind? with
      | none => exact hskip (by simp [hx])
      | some kind =>
        cases hkind : kind.bounds with
        | true =>
          rw [TokenKind.bounds, Bool.or_eq_true, decide_eq_true_eq, decide_eq_true_eq] at hkind
          rcases hkind with rfl | rfl
          · exact hskip (by simp [hx])
          · obtain rfl := hlast [] x xs rfl hx
            exact ⟨[], false, .gap (by simp [hx, TokenKind.bounds])⟩
        | false =>
          obtain ⟨body, trail, tail, phase, heq, hbody, htrail, hphase, hin, hstop⟩ :=
            exists_statement hx hkind xs
          rw [heq] at hlast ⊢
          have htail : OpenCommentLast tail := hlast.of_append.of_append
          cases tail with
          | nil =>
            exact ⟨[body], phase.inTrigger, .last_of_body hbody hphase
              (by simp [htrail])⟩
          | cons y rest =>
            obtain ⟨stop, hy, hnone⟩ := hstop y rfl
            rcases (Phase.afterToken?_eq_none hin).mp hnone with rfl | ⟨rfl, rfl⟩
            · obtain rfl := htail [] y rest rfl hy
              exact ⟨[body], phase.inTrigger, .last_of_body hbody hphase
                (by simp [htrail, hy])⟩
            · have hrest : OpenCommentLast rest := htail.of_cons
              have hshort : rest.length < n := by
                have := congrArg List.length heq
                simp only [List.length_append, List.length_cons] at this hlen
                omega
              obtain ⟨bodies, inTrigger, h⟩ := ih rest.length hshort hrest rfl
              exact ⟨body :: bodies, inTrigger, .statement_of_body hbody hphase htrail hy h⟩

/-! ## Statements of a script -/

/-- No comment is left open in a text in front of its last lexeme. -/
theorem openCommentLast_lexemes (s : List Char) : OpenCommentLast (lexemes s) :=
  fun _ _ _ heq hx => lexemes_unterminatedComment_last heq (Lexeme.kind_eq_of_tokenKind? hx)

/-- The statements of a script and how its text ends, by the division of its lexemes. -/
theorem Splits.splitStatements_eq {sql : String} {bodies : List (List Lexeme)} {inTrigger : Bool}
    (h : Splits (lexemes sql.toList) bodies inTrigger) :
    (splitStatements sql).1 = bodies.map statementText ∧
      (splitStatements sql).2.incompleteTrigger = inTrigger ∧
      (splitStatements sql).2.incompleteComment =
        decide (.unterminatedComment ∈ kindsOf (lexemes sql.toList)) :=
  h.drain_go (Splitter.ofScript sql) rfl rfl []

/-- The statements of a script are those of a division of its lexemes. -/
theorem splitStatements_division (sql : String) :
    ∃ bodies, Division (lexemes sql.toList) bodies ∧
      (splitStatements sql).1 = bodies.map statementText := by
  obtain ⟨bodies, inTrigger, h⟩ := exists_splits (openCommentLast_lexemes sql.toList)
  exact ⟨bodies, h.division, h.splitStatements_eq.1⟩

/-- A text is one statement if its lexemes are one and its tokens hold together. -/
theorem splitStatements_eq_singleton_iff (sql : String) :
    (splitStatements sql).1 = [sql] ↔
      IsStatement (lexemes sql.toList) ∧ (statementPhase? (tokenKinds sql)).isSome = true := by
  constructor
  · intro h
    obtain ⟨bodies, inTrigger, hsplits⟩ := exists_splits (openCommentLast_lexemes sql.toList)
    rw [hsplits.splitStatements_eq.1] at h
    obtain ⟨body, rfl, hbody⟩ := List.map_eq_singleton_iff.mp h
    obtain ⟨hstatement, hphase, pre, post, hxs⟩ := hsplits.of_mem (List.mem_singleton.mpr rfl)
    have htext : texts body = sql.toList := by
      rw [← hbody, statementText, String.toList_ofList]
    rw [tokenKinds_eq, ← htext, lexemes_texts hxs]
    exact ⟨hstatement, hphase⟩
  · rintro ⟨hstatement, hphase⟩
    obtain ⟨phase, hphase⟩ := Option.isSome_iff_exists.mp hphase
    rw [(Splits.single hstatement hphase).splitStatements_eq.1, List.map_singleton, statementText,
      texts_lexemes, String.ofList_toList]

/-- A statement of a script is by itself one statement. -/
theorem splitStatements_of_mem {sql statement : String} (h : statement ∈ (splitStatements sql).1) :
    (splitStatements statement).1 = [statement] := by
  obtain ⟨bodies, inTrigger, hsplits⟩ := exists_splits (openCommentLast_lexemes sql.toList)
  rw [hsplits.splitStatements_eq.1] at h
  obtain ⟨body, hmem, rfl⟩ := List.mem_map.mp h
  obtain ⟨hstatement, hphase, pre, post, hxs⟩ := hsplits.of_mem hmem
  have hbody : lexemes (statementText body).toList = body := by
    rw [statementText, String.toList_ofList, lexemes_texts hxs]
  rw [splitStatements_eq_singleton_iff, tokenKinds_eq, hbody]
  exact ⟨hstatement, hphase⟩

end SqlStream.Sql
