import FacetedSearch.Json.Reader
import FacetedSearch.Json.Writer
import FacetedSearch.Proofs.Text.Spelling

/-!
# One token after the other

A text is read character by character, and two machines run at once: one cuts tokens, and what it
cuts off is handed to the other, which assembles the document.  The laws of reading are about
tokens, so they are stated for what is left of a text: where the characters of a token stand in
front, reading them is taking that token, and reading goes on behind it.

This is not so for every token.  A numeral or word ends only where a character follows that cannot
belong to it, and it is taken together with what follows.  So behind such a token the text has to
be at its end, or go on with a character of another sort.  Between the items of an array and the
members of an object it always does.

* `Json.readFrom?`: reading what is left of a text;
* `Json.IsEnd`: where a numeral or word ends;
* `Json.readFrom?_mark`, `Json.readFrom?_lexeme`, `Json.readFrom?_string`: one token;
* `Scan.isLexemeChar_of_ofNumeral?`: the characters of a numeral.
-/

namespace FacetedSearch

/-! ## Characters -/

namespace Scan

/-- A character of a numeral or word separates nothing. -/
theorem start?_of_isLexemeChar {c : Char} (h : isLexemeChar c = true) :
    start? c = some ([], .lexeme [c]) := by
  have hseparator : isSeparator c = false := by
    by_contra hyes
    rw [Bool.not_eq_false] at hyes
    simp only [isSeparator, Bool.or_eq_true, beq_iff_eq] at hyes
    rcases hyes with ((rfl | rfl) | rfl) | rfl <;> exact absurd h (by decide)
  have hmark : isMark c = false := by
    by_contra hyes
    rw [Bool.not_eq_false] at hyes
    simp only [isMark, Bool.or_eq_true, beq_iff_eq] at hyes
    rcases hyes with ((((rfl | rfl) | rfl) | rfl) | rfl) | rfl <;> exact absurd h (by decide)
  have hquote : c ≠ '"' := by
    rintro rfl
    exact absurd h (by decide)
  rw [start?, hseparator, hmark]
  simp only [Bool.false_eq_true, if_false, hquote, h, if_true]

theorem start?_of_isMark {c : Char} (h : isMark c = true) :
    start? c = some ([.mark c], .between) := by
  simp only [isMark, Bool.or_eq_true, beq_iff_eq] at h
  rcases h with ((((rfl | rfl) | rfl) | rfl) | rfl) | rfl <;> rfl

theorem isLexemeChar_of_isDigit {c : Char} (h : c.isDigit = true) : isLexemeChar c = true := by
  simp [isLexemeChar, Char.isAlphanum, h]

theorem hexDigit?_digitChar {n : Nat} (h : n < 16) : hexDigit? (Nat.digitChar n) = some n := by
  have hall : ∀ n : Fin 16, hexDigit? (Nat.digitChar n.val) = some n.val := by decide
  exact hall ⟨n, h⟩

section

variable {gathered : List Char} {value : Nat} {n : Nat}

/-- A hexadecimal digit behind which others are missing. -/
theorem step?_code (missing : Nat) (h : n < 16) :
    (code gathered none value (missing + 2)).step? (Nat.digitChar n) =
      some ([], .code gathered none (value * 16 + n) (missing + 1)) := by
  have hmore : ¬missing + 2 ≤ 1 := by omega
  simp only [step?, hexDigit?_digitChar h, hmore, if_false]
  rfl

/-- The last digit of a code unit that names a character by itself. -/
theorem step?_code_last (h : n < 16) (hunit : value * 16 + n < 0xD800) :
    (code gathered none value 1).step? (Nat.digitChar n) =
      some ([], .string (Char.ofNat (value * 16 + n) :: gathered)) := by
  have hplain : afterCode? gathered none (value * 16 + n) =
      some (.string (Char.ofNat (value * 16 + n) :: gathered)) := by
    unfold afterCode?
    simp only
    rw [if_neg (by omega), if_neg (by omega)]
  simp only [step?, hexDigit?_digitChar h]
  show (afterCode? gathered none (value * 16 + n)).bind _ = _
  rw [hplain]
  rfl

end

end Scan

namespace Json

/-! ## What is left of a text -/

section

variable {limit : Nat} {scan : Scan} {assembly : Assembly} {c : Char} {cs rest gathered : List Char}
  {value : Json} {s : String}

/-- Takes the tokens that end with the text, and gives the document. -/
def finish? (limit : Nat) (state : Scan × Assembly) : Option Json := do
  let tokens ← state.1.finish?
  let assembly ← tokens.foldlM (Assembly.step? limit) state.2
  match assembly.expects with
  | .nothing document => some document
  | _ => none

/-- Reads what is left of a text. -/
def readFrom? (limit : Nat) (state : Scan × Assembly) (cs : List Char) : Option Json :=
  (cs.foldlM (readChar? limit) state).bind (finish? limit)

theorem read?_eq_readFrom? (limit : Nat) (text : String) :
    read? limit text = readFrom? limit (.between, .start) text.toList := rfl

theorem readFrom?_cons (state : Scan × Assembly) :
    readFrom? limit state (c :: cs) =
      (readChar? limit state c).bind fun next => readFrom? limit next cs := by
  rw [readFrom?, List.foldlM_cons]
  exact Option.bind_assoc _ _ _

/-- A character that ends no token changes nothing but what is remembered. -/
theorem readFrom?_of_step {next : Scan} (h : scan.step? c = some ([], next)) :
    readFrom? limit (scan, assembly) (c :: cs) = readFrom? limit (next, assembly) cs := by
  rw [readFrom?_cons, readChar?, h]
  rfl

/-- A character that ends one token. -/
theorem readFrom?_of_token {next : Scan} {token : Token}
    (h : scan.step? c = some ([token], next)) :
    readFrom? limit (scan, assembly) (c :: cs) =
      (assembly.step? limit token).bind fun taken => readFrom? limit (next, taken) cs := by
  rw [readFrom?_cons, readChar?, h]
  show ((([token].foldlM (Assembly.step? limit) assembly).bind fun taken =>
    some (next, taken)).bind _) = _
  rw [List.foldlM_cons]
  cases assembly.step? limit token <;> rfl

/-- **A punctuation mark** is a token. -/
theorem readFrom?_mark (h : Scan.isMark c = true) :
    readFrom? limit (.between, assembly) (c :: cs) =
      (assembly.step? limit (.mark c)).bind fun taken => readFrom? limit (.between, taken) cs :=
  readFrom?_of_token (Scan.start?_of_isMark h)

/-! ## Numerals and words -/

/-- Whether a numeral or word ends in front of what is left. -/
def IsEnd (rest : List Char) : Prop := ∀ c ∈ rest.head?, Scan.isLexemeChar c = false

theorem isEnd_nil : IsEnd [] := fun _ hc => nomatch hc

theorem isEnd_cons (h : Scan.isLexemeChar c = false) : IsEnd (c :: rest) := by
  intro d hd
  rwa [← Option.some.inj hd]

/-- What is gathered of a numeral or word grows by its characters. -/
theorem readFrom?_gather (h : ∀ c ∈ cs, Scan.isLexemeChar c = true) :
    readFrom? limit (.lexeme gathered, assembly) (cs ++ rest) =
      readFrom? limit (.lexeme (cs.reverse ++ gathered), assembly) rest := by
  induction cs generalizing gathered with
  | nil => rfl
  | cons c cs ih =>
    obtain ⟨hc, hcs⟩ := List.forall_mem_cons.1 h
    have hstep : (Scan.lexeme gathered).step? c = some ([], .lexeme (c :: gathered)) := if_pos hc
    rw [List.cons_append, readFrom?_of_step hstep, ih hcs, List.reverse_cons, List.append_assoc]
    rfl

/-- A numeral or word is judged where it ends. -/
theorem readFrom?_lexeme_end (h : Scan.lexemeValue? gathered = some value) (hrest : IsEnd rest) :
    readFrom? limit (.lexeme gathered, assembly) rest =
      (assembly.step? limit (.value value)).bind fun taken =>
        readFrom? limit (.between, taken) rest := by
  cases rest with
  | nil =>
    have hfinish : (Scan.lexeme gathered).finish? = some [.value value] := by
      rw [Scan.finish?, h, Option.map_some]
    show finish? limit (.lexeme gathered, assembly) = (assembly.step? limit (.value value)).bind
      fun taken => finish? limit (.between, taken)
    rw [finish?, hfinish]
    show ([Token.value value].foldlM (Assembly.step? limit) assembly).bind _ = _
    rw [List.foldlM_cons]
    cases assembly.step? limit (.value value) <;> rfl
  | cons c cs =>
    have hstep : (Scan.lexeme gathered).step? c =
        (Scan.start? c).map fun ended => (.value value :: ended.1, ended.2) := by
      rw [Scan.step?, if_neg (Bool.eq_false_iff.1 (hrest c rfl)), h]
      cases Scan.start? c <;> rfl
    simp only [readFrom?_cons, readChar?, hstep]
    show _ = (assembly.step? limit (.value value)).bind fun taken =>
      ((Scan.start? c).bind fun ended => _).bind _
    cases Scan.start? c with
    | none => cases assembly.step? limit (.value value) <;> rfl
    | some ended =>
      show (((Token.value value :: ended.1).foldlM (Assembly.step? limit) assembly).bind _).bind _ =
        _
      rw [List.foldlM_cons]
      cases assembly.step? limit (.value value) <;> rfl

/-- **A numeral or word** is a token, if something else follows. -/
theorem readFrom?_lexeme (hne : cs ≠ []) (hcs : ∀ c ∈ cs, Scan.isLexemeChar c = true)
    (hvalue : Scan.lexemeValue? cs.reverse = some value) (hrest : IsEnd rest) :
    readFrom? limit (.between, assembly) (cs ++ rest) =
      (assembly.step? limit (.value value)).bind fun taken =>
        readFrom? limit (.between, taken) rest := by
  obtain ⟨c, more, rfl⟩ := List.exists_cons_of_ne_nil hne
  obtain ⟨hc, hmore⟩ := List.forall_mem_cons.1 hcs
  have hstep : Scan.between.step? c = some ([], .lexeme [c]) := Scan.start?_of_isLexemeChar hc
  rw [List.cons_append, readFrom?_of_step hstep, readFrom?_gather hmore]
  rw [List.reverse_cons] at hvalue
  exact readFrom?_lexeme_end hvalue hrest

/-! ## Strings -/

/-- An escape by code unit names a control character. -/
theorem readFrom?_code (h : c.toNat < 0x20) :
    readFrom? limit (.string gathered, assembly)
        ('\\' :: 'u' :: '0' :: '0' :: Nat.digitChar (c.toNat / 16) ::
          Nat.digitChar (c.toNat % 16) :: rest) =
      readFrom? limit (.string (c :: gathered), assembly) rest := by
  have hzero : ∀ {value : Nat} (missing : Nat),
      (Scan.code gathered none value (missing + 2)).step? '0' =
        some ([], .code gathered none (value * 16) (missing + 1)) :=
    fun missing => Scan.step?_code (n := 0) missing (by decide)
  have hhigh : c.toNat / 16 < 16 := by omega
  have hlow : c.toNat % 16 < 16 := Nat.mod_lt _ (by decide)
  have hcode : (0 * 16 * 16 * 16 + c.toNat / 16) * 16 + c.toNat % 16 = c.toNat := by omega
  have hescape : (Scan.string gathered).step? '\\' = some ([], .escape gathered none) := rfl
  have hunit : (Scan.escape gathered none).step? 'u' = some ([], .code gathered none 0 4) := rfl
  rw [readFrom?_of_step hescape, readFrom?_of_step hunit, readFrom?_of_step (hzero 2),
    readFrom?_of_step (hzero 1), readFrom?_of_step (Scan.step?_code 0 hhigh),
    readFrom?_of_step (Scan.step?_code_last hlow (by omega)), hcode, Char.ofNat_toNat]

/-- Each character of a string is read as it was written. -/
theorem readFrom?_escaped :
    readFrom? limit (.string gathered, assembly) (escaped c ++ rest) =
      readFrom? limit (.string (c :: gathered), assembly) rest := by
  unfold escaped
  split
  case h_8 hquote hbackslash _ _ _ _ _ =>
    split
    · next hcontrol => exact readFrom?_code hcontrol
    · next hplain =>
      refine readFrom?_of_step ?_
      rw [Scan.step?, if_neg hquote, if_neg hbackslash, if_neg hplain]
  all_goals exact (readFrom?_of_step rfl).trans (readFrom?_of_step rfl)

/-- What is gathered of a string grows by its characters. -/
theorem readFrom?_flatMap_escaped (cs : List Char) :
    readFrom? limit (.string gathered, assembly) (cs.flatMap escaped ++ rest) =
      readFrom? limit (.string (cs.reverse ++ gathered), assembly) rest := by
  induction cs generalizing gathered with
  | nil => rfl
  | cons c cs ih =>
    rw [List.flatMap_cons, List.append_assoc, readFrom?_escaped, ih, List.reverse_cons,
      List.append_assoc]
    rfl

/-- **A string** is a token. -/
theorem readFrom?_string :
    readFrom? limit (.between, assembly) (stringChars s ++ rest) =
      (assembly.step? limit (.value (.str s))).bind fun taken =>
        readFrom? limit (.between, taken) rest := by
  have hopen : Scan.between.step? '"' = some ([], .string []) := rfl
  have hclose : (Scan.string (s.toList.reverse ++ [])).step? '"' =
      some ([.value (.str s)], .between) := by
    rw [Scan.step?, if_pos rfl, List.append_nil, List.reverse_reverse, String.ofList_toList]
  rw [stringChars, List.cons_append, readFrom?_of_step hopen, List.append_assoc,
    readFrom?_flatMap_escaped]
  exact readFrom?_of_token hclose

end

end Json

/-! ## The characters of a numeral -/

namespace Scan

open Json

theorem isLexemeChar_of_exponentPart? {cs : List Char} {e : Int}
    (h : Decimal.exponentPart? cs = some e) : ∀ c ∈ cs, isLexemeChar c = true := by
  cases cs with
  | nil => exact fun _ hc => absurd hc List.not_mem_nil
  | cons mark rest =>
    rw [Decimal.exponentPart?] at h
    split at h
    · next hmark =>
      have hdigits : ∀ digits : List Char, IsRun digits → ∀ c ∈ digits, isLexemeChar c = true :=
        fun digits hrun c hc => isLexemeChar_of_isDigit (hrun.2 c hc)
      refine List.forall_mem_cons.2 ⟨?_, ?_⟩
      · rcases hmark with rfl | rfl <;> rfl
      · cases integerOf?_eq_some_iff.1 h with
        | plain hrun => exact hdigits _ hrun
        | plus hrun | minus hrun => exact List.forall_mem_cons.2 ⟨rfl, hdigits _ hrun⟩
    · cases h

theorem isLexemeChar_of_ofUnsignedNumeral? {negative : Bool} {cs : List Char} {value : Json}
    (h : ofUnsignedNumeral? negative cs = some value) : ∀ c ∈ cs, isLexemeChar c = true := by
  have hwhole : ∀ c ∈ cs.takeWhile Char.isDigit, isLexemeChar c = true :=
    fun c hc => isLexemeChar_of_isDigit (List.mem_takeWhile_imp hc)
  unfold ofUnsignedNumeral? at h
  dsimp only at h
  split at h
  · cases h
  · rw [← List.takeWhile_append_dropWhile (p := Char.isDigit) (l := cs), List.forall_mem_append]
    refine ⟨hwhole, ?_⟩
    split at h
    · next hnone =>
      rw [hnone]
      exact fun _ hc => absurd hc List.not_mem_nil
    · next more hpoint =>
      rw [hpoint]
      split at h
      · cases h
      · obtain ⟨e, he, -⟩ := Option.bind_eq_some_iff.1 h
        refine List.forall_mem_cons.2 ⟨rfl, ?_⟩
        rw [← List.takeWhile_append_dropWhile (p := Char.isDigit) (l := more),
          List.forall_mem_append]
        exact ⟨fun c hc => isLexemeChar_of_isDigit (List.mem_takeWhile_imp hc),
          isLexemeChar_of_exponentPart? he⟩
    · obtain ⟨e, he, -⟩ := Option.bind_eq_some_iff.1 h
      exact isLexemeChar_of_exponentPart? he

/-- A numeral consists of characters of numerals. -/
theorem isLexemeChar_of_ofNumeral? {cs : List Char} {value : Json}
    (h : ofNumeral? cs = some value) : ∀ c ∈ cs, isLexemeChar c = true := by
  unfold ofNumeral? at h
  split at h
  · exact List.forall_mem_cons.2 ⟨rfl, isLexemeChar_of_ofUnsignedNumeral? h⟩
  · exact isLexemeChar_of_ofUnsignedNumeral? h

/-- A numeral is none of the words. -/
theorem lexemeValue?_of_ofNumeral? {cs : List Char} {value : Json}
    (h : ofNumeral? cs = some value) : lexemeValue? cs.reverse = some value := by
  have hword : ∀ word : String, ofNumeral? word.toList = none → String.ofList cs ≠ word := by
    rintro word hnone rfl
    rw [String.toList_ofList, h] at hnone
    cases hnone
  rw [lexemeValue?, List.reverse_reverse]
  split
  · next heq => exact absurd heq (hword _ rfl)
  · next heq => exact absurd heq (hword _ rfl)
  · next heq => exact absurd heq (hword _ rfl)
  · exact h

end Scan
end FacetedSearch
