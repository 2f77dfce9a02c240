import ObservationQuery.Json.Printer
import ObservationQuery.Json.Reader
import ObservationQuery.Proofs.Instant

/-!
# JSON texts are read as they are written

* `Json.Plain` — a value whose numbers are integers and whose strings have values, so that its text
  tells it from every other such value.
* `Json.weight` — the recursion that reading a value takes.

Principal result: `Json.read?_print_of_plain` — the text of a plain value is read as this value.
-/

namespace ObservationQuery

open Text

namespace Json

/-! ## Plain values -/

mutual

/-- The numbers are integers, and the strings have values. -/
def Plain : Json → Prop
  | .decimal _ _ => False
  | .string s => s.isSome = true
  | .array items => ItemsPlain items
  | .object members => MembersPlain members
  | _ => True

/-- The items are plain. -/
def ItemsPlain : List Json → Prop
  | [] => True
  | item :: items => item.Plain ∧ ItemsPlain items

/-- The values of the members are plain, and their names have values. -/
def MembersPlain : List (Option String × Json) → Prop
  | [] => True
  | (name, value) :: members => name.isSome = true ∧ value.Plain ∧ MembersPlain members

end

mutual

/-- The recursion that reading a value takes. -/
def weight : Json → Nat
  | .array items => 1 + itemsWeight items
  | .object members => 1 + membersWeight members
  | _ => 1

/-- The recursion that reading items takes. -/
def itemsWeight : List Json → Nat
  | [] => 0
  | item :: items => 1 + item.weight + itemsWeight items

/-- The recursion that reading members takes. -/
def membersWeight : List (Option String × Json) → Nat
  | [] => 0
  | (_, value) :: members => 1 + value.weight + membersWeight members

end

/-! ## Strings -/

theorem hexDigit?_digitChar : ∀ d < 16, hexDigit? (Nat.digitChar d) = some d := by decide

/-- A character is read as it is written in a string. -/
theorem readPieces_escapeChar (c : Char) (rest : List Char) :
    readPieces (escapeChar c ++ rest) =
      (readPieces rest).map fun (ps, r) => (.char c :: ps, r) := by
  unfold escapeChar
  split
  any_goals rfl
  split
  · rename_i h
    have hhigh := hexDigit?_digitChar (c.toNat / 16) (by omega)
    have hlow := hexDigit?_digitChar (c.toNat % 16) (by omega)
    have hzero : hexDigit? '0' = some 0 := rfl
    have hunit : codeUnit? '0' '0' (Nat.digitChar (c.toNat / 16)) (Nat.digitChar (c.toNat % 16)) =
        some c.toNat := by
      simp only [codeUnit?, hzero, hhigh, hlow, bind, pure, Option.bind_some, Option.some.injEq]
      omega
    have hpiece : Piece.ofCodeUnit c.toNat = .char c := by
      rw [Piece.ofCodeUnit, if_neg (by omega), Char.ofNat_toNat]
    simp only [List.cons_append, List.nil_append, readPieces, hunit, hpiece]
  · rename_i h hs
    rw [List.singleton_append, readPieces]
    · rw [if_neg hs]
    all_goals simp_all

theorem readPieces_flatMap (cs rest : List Char) :
    readPieces (cs.flatMap escapeChar ++ '"' :: rest) = some (cs.map .char, rest) := by
  induction cs with
  | nil => rfl
  | cons c cs ih =>
    rw [List.flatMap_cons, List.append_assoc, readPieces_escapeChar, ih]
    rfl

theorem joinPieces_map (cs : List Char) : joinPieces (cs.map .char) = some cs := by
  induction cs with
  | nil => rfl
  | cons c cs ih =>
    rw [List.map_cons, joinPieces, ih]
    rfl

/-- A string is read as it is written, after its opening quote. -/
theorem readString_printString (s : String) (rest : List Char) :
    ∃ cs, printString (some s) ++ rest = '"' :: cs ∧ readString cs = some (some s, rest) := by
  refine ⟨s.toList.flatMap escapeChar ++ '"' :: rest, by simp [printString], ?_⟩
  rw [readString, readPieces_flatMap, Option.map_some]
  dsimp only
  rw [joinPieces_map, Option.map_some, String.ofList_toList]

/-! ## Numbers -/

/-- A numeral is not led by zeros. -/
theorem head_decimal_ne_zero (n : Nat) (h : 0 < n) : (Text.decimal n).head? ≠ some '0' := by
  induction n using Nat.strongRecOn with
  | ind n ih =>
    by_cases hn : n < 10
    · have hdigit : ∀ n < 10, 0 < n → (Text.decimal n).head? ≠ some '0' := by decide
      exact hdigit n hn h
    · have hhead := ih (n / 10) (by omega) (by omega)
      have hsplit : Text.decimal n = Text.decimal (n / 10) ++ [Nat.digitChar (n % 10)] :=
        Nat.toDigits_of_base_le (by decide) (by omega)
      rw [hsplit]
      cases hds : Text.decimal (n / 10) with
      | nil => exact absurd hds (decimal_ne_nil _)
      | cons d ds =>
        rw [hds] at hhead
        exact hhead

theorem decimal_ne_zero_cons (n : Nat) (d : Char) (ds : List Char) :
    Text.decimal n ≠ '0' :: d :: ds := by
  intro h
  rcases Nat.eq_zero_or_pos n with rfl | hn
  · cases h
  · have hhead := head_decimal_ne_zero n hn
    rw [h] at hhead
    exact hhead rfl

/-- A text that does not go on with a part of a number. -/
structure Ends (rest : List Char) : Prop where
  stops : Stops rest
  fraction : rest.head? ≠ some '.'
  exponent : rest.head? ≠ some 'e' ∧ rest.head? ≠ some 'E'

theorem ends_cons {c : Char} (h : c ∈ [',', ']', '\x7d']) (rest : List Char) :
    Ends (c :: rest) := by
  have hc : c.isDigit = false ∧ c ≠ '.' ∧ c ≠ 'e' ∧ c ≠ 'E' := by
    simp only [List.mem_cons, List.not_mem_nil, or_false] at h
    rcases h with rfl | rfl | rfl <;> decide
  exact ⟨stops_cons hc.1, by simpa using hc.2.1, by simpa using hc.2.2⟩

theorem readMagnitude_decimal {negative : Bool} {n : Nat} (hn : negative = true → n ≠ 0)
    {rest : List Char} (h : Ends rest) : readMagnitude negative (Text.decimal n ++ rest) =
      some (.integer (if negative then -(n : Int) else n), rest) := by
  have htake : takeDigits (Text.decimal n ++ rest).length (Text.decimal n ++ rest) =
      (Text.decimal n, rest) :=
    takeDigits_append (fun _ => isDigit_of_mem_decimal) (by simp) h.stops
  have hfraction : Json.readFraction rest = some (none, rest) := by
    unfold Json.readFraction
    split
    · exact absurd rfl h.fraction
    · rfl
  have hexponent : readExponent rest = some (none, rest) := by
    unfold readExponent
    split
    any_goals exact absurd rfl h.exponent.1
    any_goals exact absurd rfl h.exponent.2
    rfl
  rw [readMagnitude, htake]
  split
  · rename_i heq
    exact absurd (Prod.mk.inj heq).1 (decimal_ne_nil n)
  · rename_i heq
    exact absurd (Prod.mk.inj heq).1 (decimal_ne_zero_cons n _ _)
  · rename_i heq
    obtain ⟨rfl, rfl⟩ := Prod.mk.inj heq
    simp only [hfraction, hexponent, ofDecimal_decimal, bind, pure, Option.bind_some]
    cases negative with
    | false => rfl
    | true => simp [hn rfl]

theorem readNumber_signed (n : Int) {rest : List Char} (h : Ends rest) :
    Json.readNumber (signed n ++ rest) = some (.integer n, rest) := by
  unfold signed
  split
  · rename_i hneg
    rw [List.cons_append, Json.readNumber, readMagnitude_decimal (by omega) h]
    simp only [if_true, Option.some.injEq, Prod.mk.injEq, Json.integer.injEq, and_true]
    omega
  · rename_i hpos
    have hread : readMagnitude false (Text.decimal n.natAbs ++ rest) =
        some (.integer n.natAbs, rest) := readMagnitude_decimal (by simp) h
    have hvalue : (n.natAbs : Int) = n := by omega
    rw [hvalue] at hread
    have hdigit : ∀ c ∈ Text.decimal n.natAbs, c.isDigit = true := fun _ => isDigit_of_mem_decimal
    unfold Json.readNumber
    split
    · rename_i heq
      cases hds : Text.decimal n.natAbs with
      | nil => exact absurd hds (decimal_ne_nil _)
      | cons d ds =>
        rw [hds, List.cons_append] at heq
        have hd := hdigit d (by simp [hds])
        rw [(List.cons.inj heq).1] at hd
        cases hd
    · exact hread

/-! ## Values -/

theorem skipSpace_cons {c : Char} (h : c ∉ [' ', '\t', '\n', '\r']) (cs : List Char) :
    skipSpace (c :: cs) = c :: cs := by
  rw [skipSpace, List.dropWhile_cons_of_neg]
  simpa [not_or, and_assoc] using h

/-- What a number begins with. -/
def Leads (c : Char) : Prop := c = '-' ∨ c.isDigit = true

theorem signed_eq_cons (n : Int) : ∃ c cs, signed n = c :: cs ∧ Leads c := by
  unfold signed
  split
  · exact ⟨_, _, rfl, .inl rfl⟩
  · cases hds : Text.decimal n.natAbs with
    | nil => exact absurd hds (decimal_ne_nil _)
    | cons d ds =>
      have hd : d ∈ Text.decimal n.natAbs := by simp [hds]
      exact ⟨d, ds, rfl, .inr (isDigit_of_mem_decimal hd)⟩

theorem Leads.notMem {c : Char} (h : Leads c) {l : List Char}
    (hl : l.all (fun d => d != '-' && !d.isDigit) = true) : c ∉ l := by
  intro hc
  have hboth := List.all_eq_true.mp hl c hc
  rw [Bool.and_eq_true, bne_iff_ne, Bool.not_eq_true'] at hboth
  rcases h with h | h
  · exact hboth.1 h
  · rw [hboth.2] at h
    cases h

/-- The text of a value begins with no blank and no closing bracket. -/
theorem chars_eq_cons (v : Json) :
    ∃ c cs, v.chars = c :: cs ∧ c ∉ [' ', '\t', '\n', '\r', ']'] := by
  match v with
  | .null | .bool true | .bool false | .array [] | .array (_ :: _) | .object []
  | .object ((_, _) :: _) => exact ⟨_, _, rfl, by decide⟩
  | .string none | .string (some _) => exact ⟨_, _, rfl, by decide⟩
  | .integer n =>
    obtain ⟨c, cs, hcs, hc⟩ := signed_eq_cons n
    exact ⟨c, cs, hcs, hc.notMem (by decide)⟩
  | .decimal significand exponent =>
    obtain ⟨c, cs, hcs, hc⟩ := signed_eq_cons significand
    exact ⟨c, cs ++ 'e' :: signed exponent, by rw [chars, hcs, List.cons_append],
      hc.notMem (by decide)⟩

theorem readValue_number {c : Char} (h : Leads c) (fuel : Nat) (cs : List Char) :
    readValue (fuel + 1) (c :: cs) = Json.readNumber (c :: cs) := by
  have hne : c ∉ ['n', 't', 'f', '"', '[', '\x7b'] := h.notMem (by decide)
  rw [readValue, skipSpace_cons (h.notMem (by decide))]
  split
  all_goals first
    | rfl
    | (rename_i heq; rw [(List.cons.inj heq).1] at hne; simp at hne)

theorem readValue_quote (fuel : Nat) (cs : List Char) :
    readValue (fuel + 1) ('"' :: cs) = (readString cs).map fun (s, r) => (.string s, r) := rfl

theorem readValue_bracket {c : Char} (h : c ∉ [' ', '\t', '\n', '\r', ']']) (fuel : Nat)
    (cs : List Char) : readValue (fuel + 1) ('[' :: c :: cs) =
      (readItems fuel (c :: cs)).map fun (items, r) => (.array items, r) := by
  simp only [List.mem_cons, not_or] at h
  have hspace : skipSpace (c :: cs) = c :: cs := skipSpace_cons (by simp [h]) cs
  have hbracket : skipSpace ('[' :: c :: cs) = '[' :: c :: cs := skipSpace_cons (by decide) _
  simp only [readValue, hbracket, hspace]
  split
  · rename_i heq
    exact absurd (List.cons.inj heq).1 h.2.2.2.2.1
  · rfl

theorem readValue_brace (fuel : Nat) (cs : List Char) : readValue (fuel + 1) ('\x7b' :: '"' :: cs) =
    (readMembers fuel ('"' :: cs)).map fun (members, r) => (.object members, r) := rfl

theorem readItems_comma {fuel : Nat} {cs rest : List Char} {item : Json}
    (h : readValue fuel cs = some (item, ',' :: rest)) : readItems (fuel + 1) cs =
      (readItems fuel rest).map fun (items, r) => (item :: items, r) := by
  simp [readItems, h, skipSpace_cons]

theorem readItems_close {fuel : Nat} {cs rest : List Char} {item : Json}
    (h : readValue fuel cs = some (item, ']' :: rest)) :
    readItems (fuel + 1) cs = some ([item], rest) := by
  simp [readItems, h, skipSpace_cons]

section
variable {fuel : Nat} {cs cs' rest : List Char} {name : Option String} {value : Json}

theorem readMembers_comma (hname : readString cs = some (name, ':' :: cs'))
    (hvalue : readValue fuel cs' = some (value, ',' :: rest)) : readMembers (fuel + 1) ('"' :: cs) =
      (readMembers fuel rest).map fun (members, r) => ((name, value) :: members, r) := by
  simp [readMembers, skipSpace_cons, hname, hvalue]

theorem readMembers_close (hname : readString cs = some (name, ':' :: cs'))
    (hvalue : readValue fuel cs' = some (value, '\x7d' :: rest)) :
    readMembers (fuel + 1) ('"' :: cs) = some ([(name, value)], rest) := by
  simp [readMembers, skipSpace_cons, hname, hvalue]

end

theorem ends_itemsChars (items : List Json) (rest : List Char) :
    Ends (itemsChars items ++ rest) := by
  cases items <;> exact ends_cons (by decide) _

theorem ends_membersChars (members : List (Option String × Json)) (rest : List Char) :
    Ends (membersChars members ++ rest) := by
  cases members <;> exact ends_cons (by decide) _

mutual

/-- **A plain value is read as it is written, whatever ends it.** -/
theorem readValue_chars : ∀ (fuel : Nat) (v : Json) (rest : List Char), v.Plain →
    v.weight ≤ fuel → Ends rest → readValue fuel (v.chars ++ rest) = some (v, rest)
  | 0, v, rest, _, hfuel, _ => by
    cases v <;> simp [weight] at hfuel
  | fuel + 1, .null, rest, _, _, _ => rfl
  | fuel + 1, .bool true, rest, _, _, _ => rfl
  | fuel + 1, .bool false, rest, _, _, _ => rfl
  | fuel + 1, .integer n, rest, _, _, hrest => by
    obtain ⟨c, cs, hcs, hc⟩ := signed_eq_cons n
    have hread := readNumber_signed n hrest
    rw [chars, hcs, List.cons_append] at *
    rw [readValue_number hc, hread]
  | fuel + 1, .string (some s), rest, _, _, _ => by
    obtain ⟨cs, hcs, hread⟩ := readString_printString s rest
    rw [chars, hcs, readValue_quote, hread, Option.map_some]
  | fuel + 1, .array [], rest, _, _, _ => rfl
  | fuel + 1, .array (item :: items), rest, hplain, hfuel, _ => by
    have hitems : itemsWeight (item :: items) ≤ fuel := by
      rw [weight] at hfuel
      omega
    have hread := readItems_chars fuel item items rest hplain hitems
    obtain ⟨c, cs, hcs, hc⟩ := chars_eq_cons item
    simp only [chars, hcs, List.cons_append, List.append_assoc] at hread ⊢
    rw [readValue_bracket hc, hread, Option.map_some]
  | fuel + 1, .object [], rest, _, _, _ => rfl
  | fuel + 1, .object ((some name, value) :: members), rest, hplain, hfuel, _ => by
    have hmembers : membersWeight ((some name, value) :: members) ≤ fuel := by
      rw [weight] at hfuel
      omega
    have hread := readMembers_chars fuel name value members rest hplain hmembers
    obtain ⟨cs, hcs, -⟩ := readString_printString name
      (':' :: (value.chars ++ (membersChars members ++ rest)))
    simp only [chars, List.cons_append, List.append_assoc]
    rw [hcs] at hread ⊢
    rw [readValue_brace, hread, Option.map_some]
  | fuel + 1, .object ((none, _) :: _), rest, hplain, _, _ => by
    cases hplain.1

/-- Items are read as they are written, up to the closing bracket. -/
theorem readItems_chars : ∀ (fuel : Nat) (item : Json) (items : List Json) (rest : List Char),
    ItemsPlain (item :: items) → itemsWeight (item :: items) ≤ fuel →
    readItems fuel (item.chars ++ (itemsChars items ++ rest)) = some (item :: items, rest)
  | 0, item, items, rest, _, hfuel => by
    simp [itemsWeight] at hfuel
  | fuel + 1, item, items, rest, hplain, hfuel => by
    rw [itemsWeight] at hfuel
    have hitem := readValue_chars fuel item _ hplain.1 (by omega) (ends_itemsChars items rest)
    match items with
    | [] => exact readItems_close hitem
    | next :: items =>
      have hitems := readItems_chars fuel next items rest hplain.2 (by omega)
      simp only [itemsChars, List.cons_append, List.append_assoc] at hitem ⊢
      rw [readItems_comma hitem, hitems, Option.map_some]

/-- Members are read as they are written, up to the closing brace. -/
theorem readMembers_chars : ∀ (fuel : Nat) (name : String) (value : Json)
    (members : List (Option String × Json)) (rest : List Char),
    MembersPlain ((some name, value) :: members) →
    membersWeight ((some name, value) :: members) ≤ fuel →
    readMembers fuel
      (printString (some name) ++ (':' :: (value.chars ++ (membersChars members ++ rest)))) =
      some ((some name, value) :: members, rest)
  | 0, name, value, members, rest, _, hfuel => by
    simp [membersWeight] at hfuel
  | fuel + 1, name, value, members, rest, hplain, hfuel => by
    rw [membersWeight] at hfuel
    obtain ⟨cs, hcs, hname⟩ := readString_printString name
      (':' :: (value.chars ++ (membersChars members ++ rest)))
    have hvalue := readValue_chars fuel value _ hplain.2.1 (by omega)
      (ends_membersChars members rest)
    rw [hcs]
    match members with
    | [] => exact readMembers_close hname hvalue
    | (none, _) :: _ => cases hplain.2.2.1
    | (some next, value) :: members =>
      have hmembers := readMembers_chars fuel next value members rest hplain.2.2 (by omega)
      simp only [membersChars, List.cons_append, List.append_assoc] at hvalue hname ⊢
      rw [readMembers_comma hname hvalue, hmembers, Option.map_some]

end

/-! ## Texts -/

/-- A value without parts takes one step. -/
theorem weight_le_of_eq_one {v : Json} (h : v.weight = 1) : v.weight ≤ 2 * v.chars.length := by
  obtain ⟨c, cs, hcs, -⟩ := chars_eq_cons v
  rw [h, hcs, List.length_cons]
  omega

mutual

/-- Twice the length of its text is enough to read a value. -/
theorem weight_le : ∀ v : Json, v.weight ≤ 2 * v.chars.length
  | .null | .bool _ | .integer _ | .decimal _ _ | .string _ | .array [] | .object [] =>
    weight_le_of_eq_one rfl
  | .array (item :: items) => by
    have hitem := weight_le item
    have hitems := itemsWeight_le items
    simp only [weight, itemsWeight, chars, List.length_cons, List.length_append, List.cons_append]
    omega
  | .object ((name, value) :: members) => by
    have hvalue := weight_le value
    have hmembers := membersWeight_le members
    simp only [weight, membersWeight, chars, List.length_cons, List.length_append,
      List.cons_append]
    omega

theorem itemsWeight_le : ∀ items : List Json, itemsWeight items ≤ 2 * (itemsChars items).length
  | [] => by simp [itemsWeight]
  | item :: items => by
    have hitem := weight_le item
    have hitems := itemsWeight_le items
    simp only [itemsWeight, itemsChars, List.length_cons, List.length_append, List.cons_append]
    omega

theorem membersWeight_le : ∀ members : List (Option String × Json),
    membersWeight members ≤ 2 * (membersChars members).length
  | [] => by simp [membersWeight]
  | (name, value) :: members => by
    have hvalue := weight_le value
    have hmembers := membersWeight_le members
    simp only [membersWeight, membersChars, List.length_cons, List.length_append,
      List.cons_append]
    omega

end

end Json

end ObservationQuery
