/-
JSON text in ASCII.

`json.dumps` escapes every character beyond `~` by its number, in one plane or as a surrogate
pair.  Outside of strings a JSON text is ASCII already, so the text in ASCII is the text with
those characters replaced (`dumpsAscii`).

The replacement loses nothing: `fromAscii` takes it back on every text in which a backslash
begins an escape (`Escaped`), and a JSON text is such a text.  `dumpsAscii_inj`: two values
have the same text in ASCII exactly when they are equal up to the order of their keys.
-/
import AssuranceOS.Lib.JsonParse

namespace JsonText

/-- Four hexadecimal digits. -/
def hex4 (n : ℕ) : List Char :=
  [Nat.digitChar (n / 4096), Nat.digitChar (n / 256 % 16), Nat.digitChar (n / 16 % 16),
    Nat.digitChar (n % 16)]

/-- One character. -/
def asciiChar (c : Char) : List Char :=
  let n := c.toNat
  if n < 0x7f then [c]
  else if n < 0x10000 then '\\' :: 'u' :: hex4 n
  else
    '\\' :: 'u' :: hex4 (0xd800 + (n - 0x10000) / 0x400) ++
      '\\' :: 'u' :: hex4 (0xdc00 + (n - 0x10000) % 0x400)

/-- `json.dumps(value, sort_keys=True, separators=(",", ":"))`. -/
def dumpsAscii (v : Value) : List Char :=
  (dumps v).flatMap asciiChar

mutual

/-- The text with a blank after every comma and every colon, as `json.dumps` writes it when no
separators are given. -/
def Value.spaced : Value → List Char
  | .arr [] => ['[', ']']
  | .arr (v :: vs) => '[' :: v.spaced ++ itemsSpaced vs
  | .obj [] => ['\x7b', '\x7d']
  | .obj (e :: es) => '\x7b' :: entrySpaced e ++ entriesSpaced es
  | v => v.text

def itemsSpaced : List Value → List Char
  | [] => [']']
  | v :: vs => ',' :: ' ' :: v.spaced ++ itemsSpaced vs

def entriesSpaced : List (String × Value) → List Char
  | [] => ['\x7d']
  | e :: es => ',' :: ' ' :: entrySpaced e ++ entriesSpaced es

def entrySpaced : String × Value → List Char
  | (k, v) => quoted k ++ ':' :: ' ' :: v.spaced

end

/-- `json.dumps(value, sort_keys=True)`. -/
def dumpsSpaced (v : Value) : List Char :=
  v.sorted.spaced.flatMap asciiChar

variable {n : ℕ} {c : Char} {cs rest : List Char}

theorem hex4?_hex4 (hn : n < 0x10000) (rest : List Char) :
    hex4? (hex4 n ++ rest) = some (n, rest) := by
  have h₁ := hexDigit?_digitChar (n / 4096) (by omega)
  have h₂ := hexDigit?_digitChar (n / 256 % 16) (by omega)
  have h₃ := hexDigit?_digitChar (n / 16 % 16) (by omega)
  have h₄ := hexDigit?_digitChar (n % 16) (by omega)
  have hvalue : ((n / 4096 * 16 + n / 256 % 16) * 16 + n / 16 % 16) * 16 + n % 16 = n := by omega
  simp [hex4, hex4?, h₁, h₂, h₃, h₄, hvalue]

/-- A character of the first plane by its number. -/
theorem unicode?_hex4 (hc : c.toNat < 0x10000) (rest : List Char) :
    unicode? (hex4 c.toNat ++ rest) = some (c, rest) := by
  have hvalid : ¬ (0xd800 ≤ c.toNat ∧ c.toNat ≤ 0xdfff) := by
    have hchar := c.valid
    rcases hchar with hlow | ⟨hhigh, -⟩
    · have hlt : c.toNat < 0xd800 := hlow
      omega
    · have hlt : 0xdfff < c.toNat := hhigh
      omega
  simp [unicode?, hex4?_hex4 hc, hvalid, Char.ofNat_toNat]

theorem toNat_lt_planes (c : Char) : c.toNat < 0x110000 := by
  rcases c.valid with hlow | ⟨-, hhigh⟩
  · have hlt : c.toNat < 0xd800 := hlow
    omega
  · exact hhigh

variable {ds : List Char} {d : Char}

theorem unicode?_surrogates {high low : ℕ} (hfirst : hex4? cs = some (high, '\\' :: 'u' :: ds))
    (hsecond : hex4? ds = some (low, rest)) (hhigh : 0xd800 ≤ high ∧ high ≤ 0xdbff)
    (hlow : 0xdc00 ≤ low ∧ low ≤ 0xdfff)
    (hvalue : 0x10000 + (high - 0xd800) * 0x400 + (low - 0xdc00) = c.toNat) :
    unicode? cs = some (c, rest) := by
  have hsurrogate : 0xd800 ≤ high ∧ high ≤ 0xdfff := ⟨hhigh.1, by omega⟩
  unfold unicode?
  rw [hfirst]
  simp only [Option.bind_eq_bind, Option.bind_some]
  rw [if_pos hsurrogate]
  simp only [List.take_succ_cons, List.take_zero, List.drop_succ_cons, List.drop_zero]
  rw [hsecond]
  simp only [Option.bind_some, guard, hhigh, hlow, and_self, if_true, hvalue, Char.ofNat_toNat,
    Option.pure_def]

/-- A character beyond the first plane as a pair. -/
theorem unicode?_pair (hc : 0x10000 ≤ c.toNat) (rest : List Char) :
    unicode? (hex4 (0xd800 + (c.toNat - 0x10000) / 0x400) ++
      '\\' :: 'u' :: (hex4 (0xdc00 + (c.toNat - 0x10000) % 0x400) ++ rest)) = some (c, rest) := by
  have hmax := toNat_lt_planes c
  refine unicode?_surrogates (hex4?_hex4 (by omega) _) (hex4?_hex4 (by omega) _) ?_ ?_ ?_
  · omega
  · omega
  · omega

/-- Characters by number become themselves again, but for the control characters, which a
text has by number. -/
def fromAscii : ℕ → List Char → List Char
  | 0, _ => []
  | _ + 1, [] => []
  | fuel + 1, c :: cs =>
    if c ≠ '\\' then c :: fromAscii fuel cs
    else if cs.head? ≠ some 'u' then '\\' :: cs.take 1 ++ fromAscii fuel (cs.drop 1)
    else
      match unicode? (cs.drop 1) with
      | none => []
      | some (d, rest) =>
        if d.toNat < 0x20 then '\\' :: cs.take 5 ++ fromAscii fuel rest
        else d :: fromAscii fuel rest

/-- A backslash begins an escape of two characters or the number of a control character. -/
inductive Escaped : List Char → Prop
  | nil : Escaped []
  | plain {c : Char} {cs : List Char} (hc : c ≠ '\\') (h : Escaped cs) : Escaped (c :: cs)
  | escape {d : Char} {cs : List Char} (hd : d ≠ 'u') (hascii : d.toNat < 0x7f) (h : Escaped cs) :
      Escaped ('\\' :: d :: cs)
  | control {c : Char} {cs : List Char} (hc : c.toNat < 0x20) (h : Escaped cs) :
      Escaped ('\\' :: 'u' :: (hex4 c.toNat ++ cs))

theorem Escaped.append (hcs : Escaped cs) (hds : Escaped ds) :
    Escaped (cs ++ ds) := by
  induction hcs with
  | nil => exact hds
  | plain hc _ ih => exact .plain hc ih
  | escape hd hascii _ ih => exact .escape hd hascii ih
  | control hc _ ih =>
    show Escaped ('\\' :: 'u' :: (hex4 _ ++ _ ++ ds))
    rw [List.append_assoc]
    exact .control hc ih

theorem escaped_of_plain (h : ∀ c ∈ cs, c ≠ '\\') : Escaped cs := by
  induction cs with
  | nil => exact .nil
  | cons c cs ih =>
    exact .plain (h c List.mem_cons_self) (ih fun d hd => h d (List.mem_cons_of_mem _ hd))

theorem escaped_of_word (h : (cs.all fun c => c != '\\') = true) : Escaped cs := by
  refine escaped_of_plain fun c hc => ?_
  have hne := List.all_eq_true.mp h c hc
  exact bne_iff_ne.mp hne

theorem asciiChar_of_lt (h : c.toNat < 0x7f) : asciiChar c = [c] := if_pos h

theorem digitChar_ascii : ∀ d < 16, (Nat.digitChar d).toNat < 0x7f := by
  decide

/-- Numbers are ASCII already. -/
theorem flatMap_hex4 (hn : n < 0x10000) : (hex4 n).flatMap asciiChar = hex4 n := by
  have h₁ := asciiChar_of_lt (digitChar_ascii (n / 4096) (by omega))
  have h₂ := asciiChar_of_lt (digitChar_ascii (n / 256 % 16) (by omega))
  have h₃ := asciiChar_of_lt (digitChar_ascii (n / 16 % 16) (by omega))
  have h₄ := asciiChar_of_lt (digitChar_ascii (n % 16) (by omega))
  simp [hex4, h₁, h₂, h₃, h₄]

/-- What begins with a number is taken back to its character. -/
theorem fromAscii_unicode (fuel : ℕ) (h : unicode? cs = some (d, rest)) (hd : 0x20 ≤ d.toNat) :
    fromAscii (fuel + 1) ('\\' :: 'u' :: cs) = d :: fromAscii fuel rest := by
  have hnot : ¬ d.toNat < 0x20 := by omega
  simp [fromAscii, h, hnot]

theorem fromAscii_control (fuel : ℕ) (hc : c.toNat < 0x20) :
    fromAscii (fuel + 1) ('\\' :: 'u' :: (hex4 c.toNat ++ rest)) =
      '\\' :: 'u' :: (hex4 c.toNat ++ fromAscii fuel rest) := by
  have h : unicode? (hex4 c.toNat ++ rest) = some (c, rest) := unicode?_hex4 (by omega) rest
  have htake : ∀ ds, List.take 5 ('u' :: (hex4 c.toNat ++ ds)) = 'u' :: hex4 c.toNat := fun _ => rfl
  simp [fromAscii, h, hc, htake]

/-- The fuel that is left over does not matter. -/
theorem fromAscii_flatMap (h : Escaped cs) :
    ∀ fuel, cs.length < fuel → fromAscii fuel (cs.flatMap asciiChar) = cs := by
  induction h with
  | nil =>
    intro fuel hfuel
    obtain ⟨n, rfl⟩ : ∃ n, fuel = n + 1 := ⟨fuel - 1, by omega⟩
    rfl
  | @plain c cs hc _ ih =>
    intro fuel hfuel
    obtain ⟨n, rfl⟩ : ∃ n, fuel = n + 1 := ⟨fuel - 1, by omega⟩
    have hrest := ih n (by simpa using hfuel)
    rw [List.flatMap_cons]
    -- the three lengths of a character in ASCII
    by_cases hascii : c.toNat < 0x7f
    · rw [asciiChar_of_lt hascii, List.singleton_append]
      simp [fromAscii, hc, hrest]
    · by_cases hplane : c.toNat < 0x10000
      · have hchar : asciiChar c = '\\' :: 'u' :: hex4 c.toNat := by
          simp only [asciiChar]
          rw [if_neg hascii, if_pos hplane]
        rw [hchar, List.cons_append, List.cons_append]
        rw [fromAscii_unicode n (unicode?_hex4 hplane _) (by omega), hrest]
      · have hchar : asciiChar c = '\\' :: 'u' :: hex4 (0xd800 + (c.toNat - 0x10000) / 0x400) ++
            '\\' :: 'u' :: hex4 (0xdc00 + (c.toNat - 0x10000) % 0x400) := by
          simp only [asciiChar]
          rw [if_neg hascii, if_neg hplane]
        rw [hchar, List.append_assoc, List.cons_append, List.cons_append, List.cons_append,
          List.cons_append]
        rw [fromAscii_unicode n (unicode?_pair (by omega) _) (by omega), hrest]
  | @escape d cs hd hascii _ ih =>
    intro fuel hfuel
    obtain ⟨n, rfl⟩ : ∃ n, fuel = n + 1 := ⟨fuel - 1, by omega⟩
    have hrest := ih n (by simp at hfuel; omega)
    rw [List.flatMap_cons, List.flatMap_cons, asciiChar_of_lt hascii, asciiChar_of_lt (by decide)]
    simp [fromAscii, hd, hrest]
  | @control c cs hc _ ih =>
    intro fuel hfuel
    obtain ⟨n, rfl⟩ : ∃ n, fuel = n + 1 := ⟨fuel - 1, by omega⟩
    have hrest := ih n (by simp [hex4] at hfuel; omega)
    rw [List.flatMap_cons, List.flatMap_cons, asciiChar_of_lt (by decide),
      asciiChar_of_lt (by decide), List.flatMap_append, flatMap_hex4 (by omega)]
    rw [List.singleton_append, List.singleton_append, fromAscii_control n hc, hrest]

/-! ### A JSON text -/

theorem ne_backslash_of_isNumeric (h : isNumeric c) : c ≠ '\\' := by
  rintro rfl
  exact absurd h (by decide)

theorem intText_escaped (n : ℤ) : Escaped (intText n) :=
  escaped_of_plain fun c hc => ne_backslash_of_isNumeric (numeric_intText n c hc)

theorem float_escaped (literal : FloatLiteral) : Escaped literal.text := by
  rcases literal.valid with hreal | hword | hword | hword
  · have hall : literal.text.all isNumeric = true := by
      unfold isReal at hreal
      rw [Bool.and_eq_true] at hreal
      exact hreal.2
    refine escaped_of_plain fun c hc => ?_
    exact ne_backslash_of_isNumeric (List.all_eq_true.mp hall c hc)
  all_goals
    rw [hword]
    exact escaped_of_word rfl

/-- The number of a control character begins with two zeros. -/
theorem hex4_control (hn : n < 0x20) :
    hex4 n = ['0', '0', Nat.digitChar (n / 16), Nat.digitChar (n % 16)] := by
  have hhigh : n / 4096 = 0 := by omega
  have hmiddle : n / 256 % 16 = 0 := by omega
  have hlow : n / 16 % 16 = n / 16 := by omega
  rw [hex4, hhigh, hmiddle, hlow]
  rfl

theorem escaped_letter (hd : d ≠ 'u') (hascii : d.toNat < 0x7f) : Escaped ['\\', d] :=
  .escape hd hascii .nil

theorem escapeChar_escaped (c : Char) : Escaped (escapeChar c) := by
  unfold escapeChar
  split_ifs with h₁ h₂ h₃ h₄ h₅ h₆ h₇ h₈
  · exact escaped_letter (by decide) (by decide)
  · exact escaped_letter (by decide) (by decide)
  · exact escaped_letter (by decide) (by decide)
  · exact escaped_letter (by decide) (by decide)
  · exact escaped_letter (by decide) (by decide)
  · exact escaped_letter (by decide) (by decide)
  · exact escaped_letter (by decide) (by decide)
  · have h := Escaped.control h₈ .nil
    rwa [hex4_control h₈] at h
  · exact .plain h₂ .nil

theorem flatMap_escaped (cs : List Char) : Escaped (cs.flatMap escapeChar) := by
  induction cs with
  | nil => exact .nil
  | cons c cs ih => exact (escapeChar_escaped c).append ih

theorem quoted_escaped (s : String) : Escaped (quoted s) :=
  .plain (by decide) ((flatMap_escaped s.toList).append (.plain (by decide) .nil))

mutual

theorem text_escaped : ∀ v : Value, Escaped v.text
  | .null => escaped_of_word rfl
  | .bool true => escaped_of_word rfl
  | .bool false => escaped_of_word rfl
  | .int n => intText_escaped n
  | .float literal => float_escaped literal
  | .str s => quoted_escaped s
  | .arr [] => escaped_of_word rfl
  | .arr (v :: vs) => .plain (by decide) ((text_escaped v).append (itemsText_escaped vs))
  | .obj [] => escaped_of_word rfl
  | .obj (e :: es) => .plain (by decide) ((entryText_escaped e).append (entriesText_escaped es))

theorem itemsText_escaped : ∀ vs : List Value, Escaped (itemsText vs)
  | [] => escaped_of_word rfl
  | v :: vs => .plain (by decide) ((text_escaped v).append (itemsText_escaped vs))

theorem entriesText_escaped : ∀ es : List (String × Value), Escaped (entriesText es)
  | [] => escaped_of_word rfl
  | e :: es => .plain (by decide) ((entryText_escaped e).append (entriesText_escaped es))

theorem entryText_escaped : ∀ e : String × Value, Escaped (entryText e)
  | (k, v) => (quoted_escaped k).append (.plain (by decide) (text_escaped v))

end

/-- **ASCII texts.**  Two values have one text exactly when they differ by the order of their
keys at most. -/
theorem dumpsAscii_inj {v w : Value} : dumpsAscii v = dumpsAscii w ↔ v.sorted = w.sorted := by
  constructor
  · intro h
    have hfuel : v.sorted.text.length < (dumps v).length + (dumps w).length + 1 := by
      show (dumps v).length < _
      omega
    have hfuel' : w.sorted.text.length < (dumps v).length + (dumps w).length + 1 := by
      show (dumps w).length < _
      omega
    have hv := fromAscii_flatMap (text_escaped v.sorted) _ hfuel
    have hw := fromAscii_flatMap (text_escaped w.sorted) _ hfuel'
    have htext : v.sorted.text = w.sorted.text := by
      rw [← hv, ← hw]
      exact congrArg _ h
    exact text_injective htext
  · intro h
    unfold dumpsAscii dumps
    rw [h]

end JsonText
