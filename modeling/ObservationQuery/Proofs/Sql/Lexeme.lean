import ObservationQuery.Sql.Literal

/-!
# Reading SQL as code and literals

A single quote opens a string literal, two of them inside it stand for one, and a single one closes
it. A backslash is a character like any other.

* `Lexeme` — a character outside the literals, or a literal by its value.
* `scan` — the lexemes of a text, if it ends outside a literal.
* `chars` — the text of some lexemes; `outside` — its characters outside the literals, `values` —
  the values of its literals.
* `tame` — each literal is led by a character that stands outside, and what stands outside has no
  mark that could open a literal, an identifier in quotes, a comment or another statement.

Principal results: `scan_chars` — a text made of tame lexemes is read as exactly these lexemes;
`scan_chars_of_erase` — this holds whatever strings the literals hold; `harmless_outside` — what
stands outside has no such mark.
-/

namespace ObservationQuery.Sql

/-- A character outside the literals of a text, or a literal by its value. -/
inductive Lexeme where
  | code (c : Char)
  | literal (value : String)
  deriving DecidableEq, Repr

/-- Where a reader stands. -/
inductive Place where
  | outside
  /-- In a literal, after the characters of its value. -/
  | inside (value : List Char)
  /-- After a quote in a literal: it closes the literal unless another quote follows. -/
  | quoted (value : List Char)

/-- The lexemes of the rest of a text, if it ends outside a literal. -/
def scanFrom : Place → List Char → Option (List Lexeme)
  | .outside, [] => some []
  | .inside _, [] => none
  | .quoted v, [] => some [.literal (String.ofList v)]
  | .outside, c :: cs =>
    if c = '\'' then scanFrom (.inside []) cs else (scanFrom .outside cs).map (.code c :: ·)
  | .inside v, c :: cs =>
    if c = '\'' then scanFrom (.quoted v) cs else scanFrom (.inside (v ++ [c])) cs
  | .quoted v, c :: cs =>
    if c = '\'' then scanFrom (.inside (v ++ ['\''])) cs
    else (scanFrom .outside cs).map ([.literal (String.ofList v), .code c] ++ ·)

/-- The lexemes of a text, if it ends outside a literal. -/
def scan (cs : List Char) : Option (List Lexeme) := scanFrom .outside cs

namespace Lexeme

/-- How a lexeme is written. -/
def text : Lexeme → List Char
  | code c => [c]
  | literal v => (quote v).toList

/-- The character, if it stands outside a literal. -/
def char? : Lexeme → Option Char
  | code c => some c
  | literal _ => none

/-- The value, if it is a literal. -/
def value? : Lexeme → Option String
  | code _ => none
  | literal v => some v

end Lexeme

/-- The text of some lexemes. -/
def chars (ls : List Lexeme) : List Char := ls.flatMap Lexeme.text

/-- The characters outside the literals. -/
def outside (ls : List Lexeme) : List Char := ls.filterMap Lexeme.char?

/-- The values of the literals. -/
def values (ls : List Lexeme) : List String := ls.filterMap Lexeme.value?

/-- A text as lexemes outside literals. -/
def codes (s : String) : List Lexeme := s.toList.map .code

section
variable (a b : List Lexeme)

@[simp] theorem chars_nil : chars [] = [] := rfl

@[simp] theorem chars_append : chars (a ++ b) = chars a ++ chars b := List.flatMap_append

@[simp] theorem chars_code (c : Char) : chars (.code c :: a) = c :: chars a := rfl

@[simp] theorem chars_literal (v : String) :
    chars (.literal v :: a) = (quote v).toList ++ chars a := rfl

theorem chars_literal_singleton (v : String) : chars [.literal v] = (quote v).toList := by
  simp [-toList_quote]

@[simp] theorem chars_codes (s : String) : chars (codes s) = s.toList := by
  rw [chars, codes, List.flatMap_map]
  exact List.flatMap_singleton' _

@[simp] theorem values_append : values (a ++ b) = values a ++ values b := List.filterMap_append

@[simp] theorem values_code (c : Char) : values (.code c :: a) = values a := rfl

@[simp] theorem values_literal (v : String) : values (.literal v :: a) = v :: values a := rfl

@[simp] theorem values_codes (s : String) : values (codes s) = [] := by
  simp [values, codes, Lexeme.value?]

@[simp] theorem codes_append (s t : String) : codes (s ++ t) = codes s ++ codes t := by
  simp [codes]

theorem mem_values {v : String} {ls : List Lexeme} : v ∈ values ls ↔ .literal v ∈ ls := by
  rw [values, List.mem_filterMap]
  constructor
  · rintro ⟨l, hl, h⟩
    cases l with
    | code c => cases h
    | literal w => cases h; exact hl
  · intro h
    exact ⟨_, h, rfl⟩

end

/-! ## Reading a literal -/

theorem scanFrom_inside : ∀ (w v rest : List Char),
    scanFrom (.inside v) (w.flatMap escapeQuote ++ '\'' :: rest) =
      scanFrom (.quoted (v ++ w)) rest
  | [], v, rest => by simp [scanFrom]
  | c :: w, v, rest => by
    have ih := scanFrom_inside w (v ++ [c]) rest
    rw [List.append_assoc] at ih
    by_cases hc : c = '\''
    · subst hc
      rw [List.flatMap_cons, show escapeQuote '\'' = ['\'', '\''] from rfl]
      simpa [scanFrom] using ih
    · rw [List.flatMap_cons, escapeQuote, if_neg hc]
      simpa [scanFrom, hc] using ih

theorem scanFrom_quote (v : String) (rest : List Char) :
    scanFrom .outside ((quote v).toList ++ rest) = scanFrom (.quoted v.toList) rest := by
  rw [toList_quote, List.append_assoc, List.cons_append]
  simpa [scanFrom] using scanFrom_inside v.toList [] rest

/-! ## Lists made of parts -/

theorem intercalate_of_append {α : Type} {P : List α → Prop} (hnil : P [])
    (happ : ∀ a b, P a → P b → P (a ++ b)) {sep : List α} (hsep : P sep) :
    ∀ {parts : List (List α)}, (∀ p ∈ parts, P p) → P (sep.intercalate parts)
  | [], _ => hnil
  | [p], h => by
    rw [List.intercalate_singleton]
    exact h p (by simp)
  | p :: q :: parts, h => by
    have hrest : P (sep.intercalate (q :: parts)) :=
      intercalate_of_append hnil happ hsep fun r hr => h r (List.mem_cons_of_mem _ hr)
    rw [List.intercalate_cons_cons]
    exact happ _ _ (happ _ _ (h p (by simp)) hsep) hrest

theorem mem_intercalate {α : Type} {x : α} {sep p : List α} (hx : x ∈ p) :
    ∀ {parts : List (List α)}, p ∈ parts → x ∈ sep.intercalate parts
  | [q], hp => by
    rw [List.intercalate_singleton, ← List.mem_singleton.mp hp]
    exact hx
  | q :: r :: parts, hp => by
    rw [List.intercalate_cons_cons, List.mem_append, List.mem_append]
    rcases List.mem_cons.mp hp with rfl | hp
    · exact .inl (.inl hx)
    · exact .inr (mem_intercalate hx hp)

theorem flatMap_intercalate {α β : Type} (f : α → List β) (sep : List α) :
    ∀ parts : List (List α), (sep.intercalate parts).flatMap f =
      (sep.flatMap f).intercalate (parts.map (·.flatMap f))
  | [] => rfl
  | [p] => by simp
  | p :: q :: parts => by
    have ih := flatMap_intercalate f sep (q :: parts)
    rw [List.intercalate_cons_cons, List.flatMap_append, List.flatMap_append, ih]
    simp only [List.map_cons, List.intercalate_cons_cons]

theorem chars_intercalate (sep : List Lexeme) (parts : List (List Lexeme)) :
    chars (sep.intercalate parts) = (chars sep).intercalate (parts.map chars) :=
  flatMap_intercalate Lexeme.text sep parts

/-! ## Tame lexemes -/

/-- The characters that never stand outside a literal. -/
def isMark (c : Char) : Bool := c ∈ ['\'', '"', '\\', ';', '/']

/-- Whether lexemes are tame after the lexeme `last`. -/
def tameAfter (last : Lexeme) : List Lexeme → Bool
  | [] => last ≠ .code '-'
  | .literal v :: ls => last.char?.any (· ≠ '-') && tameAfter (.literal v) ls
  | .code c :: ls => !isMark c && (last ≠ .code '-' || c ≠ '-') && tameAfter (.code c) ls

/-- Whether each literal is led by a character outside, which is no dash, no mark stands outside,
and each dash is followed by another character. -/
def tame (ls : List Lexeme) : Bool := tameAfter (.literal "") ls

theorem tameAfter_of_tame {last : Lexeme} {ls : List Lexeme} (hlast : last ≠ .code '-')
    (h : tame ls = true) : tameAfter last ls = true := by
  cases ls with
  | nil => simpa [tameAfter] using hlast
  | cons l ls =>
    cases l with
    | literal v => simp [tame, tameAfter, Lexeme.char?] at h
    | code c => simpa [tame, tameAfter, hlast] using h

theorem tameAfter_append {b : List Lexeme} (hb : tame b = true) :
    ∀ {last : Lexeme} {a : List Lexeme}, tameAfter last a = true → tameAfter last (a ++ b) = true
  | last, [], ha => tameAfter_of_tame (by simpa [tameAfter] using ha) hb
  | last, .literal v :: a, ha => by
    simp only [List.cons_append, tameAfter, Bool.and_eq_true] at ha ⊢
    exact ⟨ha.1, tameAfter_append hb ha.2⟩
  | last, .code c :: a, ha => by
    simp only [List.cons_append, tameAfter, Bool.and_eq_true] at ha ⊢
    exact ⟨ha.1, tameAfter_append hb ha.2⟩

theorem tame_append {a b : List Lexeme} (ha : tame a = true) (hb : tame b = true) :
    tame (a ++ b) = true := tameAfter_append hb ha

theorem tame_intercalate {sep : List Lexeme} (hsep : tame sep = true) {parts : List (List Lexeme)}
    (h : ∀ p ∈ parts, tame p = true) : tame (sep.intercalate parts) = true :=
  intercalate_of_append (P := fun ls => tame ls = true) rfl (fun _ _ => tame_append) hsep h

/-- Literals between commas, after a character that stands outside. -/
theorem tame_list {c : Char} (hc : isMark c = false) (hd : c ≠ '-') : ∀ (vs : List String),
    tame (.code c :: (codes ", ").intercalate (vs.map ([.literal ·]))) = true
  | [] => by simp [tame, tameAfter, hc, hd]
  | [v] => by simp [tame, tameAfter, Lexeme.char?, hc, hd]
  | v :: w :: vs => by
    have hrest := tame_list (c := ' ') (by decide) (by decide) (w :: vs)
    have hhead : tame [.code c, .literal v, .code ','] = true := by
      have hcomma : isMark ',' = false := by decide
      simp [tame, tameAfter, Lexeme.char?, hc, hd, hcomma]
    exact tame_append hhead hrest

/-! ## Tame text is read as its lexemes -/

/-- Where a reader stands after a lexeme. -/
def Lexeme.place : Lexeme → Place
  | .code _ => .outside
  | .literal v => .quoted v.toList

/-- What the last lexeme still adds when the reader goes on: a literal is complete only then. -/
def Lexeme.pending : Lexeme → List Lexeme
  | .code _ => []
  | .literal v => [.literal v]

theorem scanFrom_chars : ∀ (last : Lexeme) (ls : List Lexeme), tameAfter last ls = true →
    scanFrom last.place (chars ls) = some (last.pending ++ ls)
  | .code _, [], _ => rfl
  | .literal v, [], _ => by simp [Lexeme.place, Lexeme.pending, scanFrom]
  | .literal _, .literal _ :: _, h => by simp [tameAfter, Lexeme.char?] at h
  | .code d, .literal v :: ls, h => by
    simp only [tameAfter, Bool.and_eq_true] at h
    rw [chars_literal, Lexeme.place, scanFrom_quote]
    exact scanFrom_chars (.literal v) ls h.2
  | .code d, .code c :: ls, h => by
    simp only [tameAfter, Bool.and_eq_true, Bool.not_eq_true'] at h
    have hc : c ≠ '\'' := by rintro rfl; exact absurd h.1.1 (by decide)
    have ih := scanFrom_chars (.code c) ls h.2
    simp only [Lexeme.place, Lexeme.pending, List.nil_append] at ih
    simp [Lexeme.place, Lexeme.pending, scanFrom, hc, ih]
  | .literal v, .code c :: ls, h => by
    simp only [tameAfter, Bool.and_eq_true, Bool.not_eq_true'] at h
    have hc : c ≠ '\'' := by rintro rfl; exact absurd h.1.1 (by decide)
    have ih := scanFrom_chars (.code c) ls h.2
    simp only [Lexeme.place, Lexeme.pending, List.nil_append] at ih
    simp [Lexeme.place, Lexeme.pending, scanFrom, hc, ih]

/-- **A text made of tame lexemes is read as exactly these lexemes.** -/
theorem scan_chars {ls : List Lexeme} (h : tame ls = true) : scan (chars ls) = some ls := by
  have h' : tameAfter (.code ' ') ls = true := tameAfter_of_tame (by decide) h
  exact scanFrom_chars (.code ' ') ls h'

example : scan "uid = 'it''s'".toList = some (codes "uid = " ++ [.literal "it's"]) := by decide

/-! ## What tame lexemes cannot do -/

/-- A lexeme without the value of a literal. -/
def Lexeme.erase : Lexeme → Lexeme
  | code c => code c
  | literal _ => literal ""

theorem tameAfter_erase : ∀ (last : Lexeme) (ls : List Lexeme),
    tameAfter last.erase (ls.map Lexeme.erase) = tameAfter last ls
  | .code _, [] => rfl
  | .literal _, [] => by simp [tameAfter, Lexeme.erase]
  | .code d, .literal v :: ls => by
    have ih := tameAfter_erase (.literal v) ls
    simp only [Lexeme.erase] at ih
    simp [tameAfter, Lexeme.erase, ih]
  | .literal _, .literal _ :: _ => rfl
  | .code d, .code c :: ls => by
    have ih := tameAfter_erase (.code c) ls
    simp only [Lexeme.erase] at ih
    simp [tameAfter, Lexeme.erase, ih]
  | .literal _, .code c :: ls => by
    have ih := tameAfter_erase (.code c) ls
    simp only [Lexeme.erase] at ih
    simp [tameAfter, Lexeme.erase, ih]

/-- **Whatever strings the literals of tame lexemes hold instead, the text is read alike.** -/
theorem scan_chars_of_erase {ls ks : List Lexeme} (h : tame ls = true)
    (heq : ks.map Lexeme.erase = ls.map Lexeme.erase) : scan (chars ks) = some ks := by
  refine scan_chars ?_
  have hks : tame (ks.map Lexeme.erase) = tame ks := tameAfter_erase (.literal "") ks
  have hls : tame (ls.map Lexeme.erase) = tame ls := tameAfter_erase (.literal "") ls
  rw [← hks, heq, hls, h]

theorem outside_eq_of_erase {ls ks : List Lexeme}
    (heq : ks.map Lexeme.erase = ls.map Lexeme.erase) : outside ks = outside ls := by
  have herase : ∀ l : List Lexeme, outside (l.map Lexeme.erase) = outside l := by
    intro l
    have hchar : Lexeme.char? ∘ Lexeme.erase = Lexeme.char? := funext fun x => by cases x <;> rfl
    rw [outside, outside, List.filterMap_map, hchar]
  rw [← herase ks, heq, herase ls]

/-- Tame lexemes are told by their text. -/
theorem eq_of_chars_eq {a b : List Lexeme} (ha : tame a = true) (hb : tame b = true)
    (h : chars a = chars b) : a = b := by
  have hscan := scan_chars ha
  rw [h, scan_chars hb, Option.some.injEq] at hscan
  exact hscan.symm

/-- Code that opens nothing: no identifier in quotes, no further statement, no comment. -/
structure Harmless (cs : List Char) : Prop where
  no_double_quote : '"' ∉ cs
  no_backslash : '\\' ∉ cs
  no_semicolon : ';' ∉ cs
  no_line_comment : ¬ "--".toList <:+: cs
  no_block_comment : ¬ "/*".toList <:+: cs

theorem isMark_of_mem_outside : ∀ {last : Lexeme} {ls : List Lexeme}, tameAfter last ls = true →
    ∀ c ∈ outside ls, isMark c = false
  | _, [], _, c, hc => by cases hc
  | _, .literal v :: ls, h, c, hc => by
    simp only [tameAfter, Bool.and_eq_true] at h
    exact isMark_of_mem_outside h.2 c hc
  | _, .code d :: ls, h, c, hc => by
    simp only [tameAfter, Bool.and_eq_true, Bool.not_eq_true'] at h
    rcases List.mem_cons.mp hc with rfl | hc
    · exact h.1.1
    · exact isMark_of_mem_outside h.2 c hc

/-- After a dash stands another character, so no two dashes stand in a row, even when the literals
are taken out. -/
theorem no_dashes : ∀ {last : Lexeme} {ls : List Lexeme}, tameAfter last ls = true →
    (last = .code '-' → (outside ls).head? ≠ some '-') ∧ ¬ ['-', '-'] <:+: outside ls
  | _, [], _ => ⟨fun _ => by simp [outside], by simp [outside]⟩
  | last, .literal v :: ls, h => by
    simp only [tameAfter, Bool.and_eq_true] at h
    refine ⟨?_, (no_dashes h.2).2⟩
    rintro rfl
    simp [Lexeme.char?] at h
  | last, .code c :: ls, h => by
    simp only [tameAfter, Bool.and_eq_true] at h
    obtain ⟨hhead, htail⟩ := no_dashes h.2
    have hout : outside (.code c :: ls) = c :: outside ls := rfl
    refine ⟨?_, ?_⟩
    · rintro rfl
      simpa [hout] using h.1.2
    · rw [hout, List.infix_cons_iff]
      rintro (hpre | hin)
      · obtain ⟨hc, t, ht⟩ := List.cons_prefix_cons.mp hpre
        subst hc
        exact hhead rfl (by rw [← ht]; rfl)
      · exact htail hin

theorem harmless_outside {ls : List Lexeme} (h : tame ls = true) : Harmless (outside ls) := by
  have hmark : ∀ c, isMark c = true → c ∉ outside ls := by
    intro c hc hmem
    rw [isMark_of_mem_outside h c hmem] at hc
    cases hc
  refine ⟨hmark _ (by decide), hmark _ (by decide), hmark _ (by decide), (no_dashes h).2, ?_⟩
  intro hin
  exact hmark '/' (by decide) (hin.subset (by decide))

end ObservationQuery.Sql
