import Formula.Proofs.Token.Tiling

/-!
Lexemes read again. What was read as a token is read as the same token wherever it stands before a
blank or at the end.
-/

namespace Formula

open Formula.Text

namespace Text

theorem not_isWord_of_isBlank {c : Char} (blank : isBlank c = true) : isWord c = false := by
  obtain ⟨span, among, inside⟩ := (blanks.contains_iff c).mp blank
  have apart : ∀ blank ∈ blanks.spans, ∀ span ∈ alphanumerics.spans,
      span.2 < blank.1 ∨ blank.2 < span.1 := by
    decide +kernel
  rw [isWord, Bool.or_eq_false_iff]
  refine ⟨?_, ?_⟩
  · rw [beq_eq_false_iff_ne]
    rintro rfl
    exact absurd blank (by decide)
  · rw [Bool.eq_false_iff]
    intro word
    obtain ⟨other, member, outside⟩ := (alphanumerics.contains_iff c).mp word
    have := apart span among other member
    omega

end Text

namespace Token

/-- Nothing, or something that starts with a blank. -/
def Apart (rest : List Char) : Prop := ∀ c ∈ rest.head?, isBlank c = true

theorem apart_nil : Apart [] := nofun

theorem apart_cons {c : Char} (blank : isBlank c = true) (rest : List Char) :
    Apart (c :: rest) := by
  rintro _ ⟨⟩
  exact blank

theorem Apart.not_isDigit {rest : List Char} (apart : Apart rest) :
    ∀ c ∈ rest.head?, isDigit c = false := by
  intro c first
  rw [Bool.eq_false_iff]
  intro digit
  exact Bool.false_ne_true ((not_isBlank_of_isDigit digit).symm.trans (apart c first))

theorem Apart.ne {rest : List Char} (apart : Apart rest) {d : Char}
    (solid : isBlank d = false) : ∀ c ∈ rest.head?, c ≠ d := by
  rintro c first rfl
  exact Bool.false_ne_true (solid.symm.trans (apart c first))

theorem Apart.takeWhile_isWord {rest : List Char} (apart : Apart rest) :
    rest.takeWhile isWord = [] := by
  cases rest with
  | nil => rfl
  | cons c rest => exact List.takeWhile_cons_of_neg (by simp [not_isWord_of_isBlank (apart c rfl)])

/-- What some characters begin with is read as a token. -/
structure Opens (cs lexeme : List Char) (kind : Kind) : Prop where
  plain : misreading? cs = none
  read : lexemeAt? cs = some (lexeme, kind)

/-! ### Numbers -/

section

variable {whole fraction exponent rest : List Char}

theorem fractionAt_append (isFraction : IsFraction fraction)
    (stop : ∀ c ∈ rest.head?, isDigit c = false ∧ c ≠ '.') :
    fractionAt (fraction ++ rest) = fraction := by
  rcases isFraction with rfl | ⟨digits, rfl, all, some⟩
  · cases rest with
    | nil => rfl
    | cons c rest =>
        rw [List.nil_append, fractionAt]
        rintro more ⟨⟩
        exact (stop '.' rfl).2 rfl
  · have taken := (Numeral.span_digits all fun c first => (stop c first).1).1
    simp only [List.cons_append, fractionAt, taken, List.isEmpty_eq_false_iff.mpr some]
    rfl

theorem mantissaAt_append (digits : AllDigits whole) (isFraction : IsFraction fraction)
    (stop : ∀ c ∈ rest.head?, isDigit c = false ∧ c ≠ '.') :
    mantissaAt (whole ++ (fraction ++ rest)) = whole ++ fraction := by
  have stopWhole : ∀ c ∈ (fraction ++ rest).head?, isDigit c = false := by
    rcases isFraction with rfl | ⟨digits, rfl, -, -⟩
    · exact fun c first => (stop c first).1
    · rintro _ ⟨⟩
      decide
  simp only [mantissaAt, (Numeral.span_digits digits stopWhole).1, List.drop_left,
    fractionAt_append isFraction stop]

theorem signAt_append {sign digits : List Char} (isSign : IsSign sign) (all : AllDigits digits)
    (some : digits ≠ []) : signAt (sign ++ (digits ++ rest)) = sign := by
  rcases isSign with rfl | rfl | rfl
  · cases digits with
    | nil => exact absurd rfl some
    | cons c digits =>
        have digit := all c List.mem_cons_self
        rw [List.nil_append, List.cons_append, signAt]
        · rintro more ⟨⟩
          exact absurd digit (by decide)
        · rintro more ⟨⟩
          exact absurd digit (by decide)
  · rfl
  · rfl

theorem exponentAt_append (isExponent : IsExponent exponent)
    (stop : ∀ c ∈ rest.head?, isDigit c = false ∧ isExponentMark c = false) :
    exponentAt (exponent ++ rest) = exponent := by
  rcases isExponent with rfl | ⟨mark, sign, digits, rfl, marked, isSign, all, some⟩
  · cases rest with
    | nil => rfl
    | cons c rest => simp [exponentAt, (stop c rfl).2]
  · have taken := (Numeral.span_digits all fun c first => (stop c first).1).1
    simp only [List.cons_append, List.append_assoc, exponentAt, signAt_append isSign all some,
      List.drop_left, taken, marked, List.isEmpty_eq_false_iff.mpr some]
    rfl

theorem Apart.not_isExponentMark (apart : Apart rest) :
    ∀ c ∈ rest.head?, isExponentMark c = false := by
  intro c first
  have noSmall : c ≠ 'e' := apart.ne (by decide) c first
  have noLarge : c ≠ 'E' := apart.ne (by decide) c first
  simp [isExponentMark, noSmall, noLarge]

theorem misreading?_eq_none {c : Char} {cs : List Char} (notEqual : c ≠ '=') (notNot : c ≠ '!')
    (closed : openExponentAt? (c :: cs) = none) : misreading? (c :: cs) = none := by
  have none : strictEqualities.find? (·.isPrefixOf (c :: cs)) = none := by
    simp [strictEqualities, List.isPrefixOf, notEqual.symm, notNot.symm]
  simp [misreading?, none, closed]

theorem lexemeAt?_number {cs : List Char} (some : numberAt cs ≠ []) :
    lexemeAt? cs = .some (numberAt cs, .number) := by
  simp [lexemeAt?, some]

theorem numberAt_append (numeral : IsNumeral whole fraction exponent) (apart : Apart rest) :
    numberAt (whole ++ fraction ++ (exponent ++ rest)) = whole ++ fraction ++ exponent ∧
      openExponentAt? (whole ++ fraction ++ (exponent ++ rest)) = none := by
  have stop : ∀ c ∈ (exponent ++ rest).head?, isDigit c = false ∧ c ≠ '.' := by
    cases exponent with
    | nil => exact fun c first => ⟨apart.not_isDigit c first, apart.ne (by decide) c first⟩
    | cons mark more =>
        rintro _ ⟨⟩
        exact Numeral.isDigit_head_exponent numeral.isExponent mark rfl
  have mantissa : mantissaAt (whole ++ fraction ++ (exponent ++ rest)) = whole ++ fraction := by
    rw [List.append_assoc]
    exact mantissaAt_append numeral.allDigits numeral.isFraction stop
  have exponentRead : exponentAt (exponent ++ rest) = exponent :=
    exponentAt_append numeral.isExponent fun c first =>
      ⟨apart.not_isDigit c first, apart.not_isExponentMark c first⟩
  have some : (whole ++ fraction).isEmpty = false := by
    rw [List.isEmpty_eq_false_iff, ne_eq, List.append_eq_nil_iff]
    exact Classical.not_and_iff_not_or_not.mpr numeral.nonempty
  refine ⟨?_, ?_⟩
  · simp only [numberAt, mantissa, List.drop_left, exponentRead, some]
    rfl
  · simp only [openExponentAt?, mantissa, List.drop_left, exponentRead, some]
    cases exponent with
    | nil =>
        cases rest with
        | nil => rfl
        | cons c rest => simp [apart.not_isExponentMark c rfl]
    | cons mark more => simp

theorem opens_number (numeral : IsNumeral whole fraction exponent) (apart : Apart rest) :
    Opens (whole ++ fraction ++ exponent ++ rest) (whole ++ fraction ++ exponent) .number := by
  obtain ⟨read, closed⟩ := numberAt_append numeral apart
  obtain ⟨c, more, front, first⟩ := numeral.front
  have digitOrPoint : c ≠ '=' ∧ c ≠ '!' := by
    rcases first with digit | rfl
    · exact ⟨isDigit_ne digit (by decide), isDigit_ne digit (by decide)⟩
    · decide
  have some : numberAt (whole ++ fraction ++ (exponent ++ rest)) ≠ [] := by
    rw [read, front]
    exact List.cons_ne_nil c more
  have lexeme := lexemeAt?_number some
  rw [read] at lexeme
  rw [← List.append_assoc] at closed lexeme
  refine ⟨?_, lexeme⟩
  rw [front, List.cons_append] at closed ⊢
  exact misreading?_eq_none digitOrPoint.1 digitOrPoint.2 closed

end

/-! ### Symbols -/

section

variable {lexeme rest : List Char} {kind : Kind}

theorem isPrefix_append_iff {front : List Char} (solid : ∀ c ∈ front, isBlank c = false)
    (apart : Apart rest) : front <+: lexeme ++ rest ↔ front <+: lexeme := by
  refine ⟨fun wide => ?_, fun narrow => narrow.trans (List.prefix_append lexeme rest)⟩
  rcases List.prefix_or_prefix_of_prefix wide (List.prefix_append lexeme rest) with short | long
  · exact short
  · obtain ⟨more, rfl⟩ := long
    cases more with
    | nil => exact ⟨[], List.append_nil _ |>.trans (List.append_nil _)⟩
    | cons c more =>
        -- what goes beyond the lexeme starts with a blank
        obtain ⟨behind, same⟩ := (List.prefix_append_right_inj lexeme).mp wide
        have blank : isBlank c = true := apart c (by rw [← same]; rfl)
        have notBlank := solid c (List.mem_append_right lexeme List.mem_cons_self)
        exact absurd blank (by simp [notBlank])

theorem find?_isPrefixOf_append {α : Type} {table : List α} {text : α → List Char}
    (solid : ∀ entry ∈ table, ∀ c ∈ text entry, isBlank c = false) (apart : Apart rest) :
    table.find? (fun entry => (text entry).isPrefixOf (lexeme ++ rest)) =
      table.find? (fun entry => (text entry).isPrefixOf lexeme) := by
  induction table with
  | nil => rfl
  | cons entry table ih =>
      obtain ⟨here, others⟩ := List.forall_mem_cons.mp solid
      have same : (text entry).isPrefixOf (lexeme ++ rest) = (text entry).isPrefixOf lexeme := by
        rw [Bool.eq_iff_iff, List.isPrefixOf_iff_prefix, List.isPrefixOf_iff_prefix]
        exact isPrefix_append_iff here apart
      rw [List.find?_cons, List.find?_cons, same, ih others]

/-- Symbols are no words, and no blanks are in them. -/
theorem chars_of_mem_symbols {symbol : List Char × Kind} (member : symbol ∈ symbols) {c : Char}
    (among : c ∈ symbol.1) : isBlank c = false ∧ isDigit c = false ∧ isWord c = false := by
  have all : ∀ symbol ∈ symbols,
      (symbol.1.all fun c => !isBlank c && !isDigit c && !isWord c) = true := by
    decide +kernel
  simpa [and_assoc] using List.all_eq_true.mp (all symbol member) c among

theorem mantissaAt_cons {c : Char} (notDigit : isDigit c = false) (notPoint : c ≠ '.')
    (cs : List Char) : mantissaAt (c :: cs) = [] := by
  have whole : (c :: cs).takeWhile isDigit = [] := List.takeWhile_cons_of_neg (by simp [notDigit])
  have fraction : fractionAt (c :: cs) = [] := by
    rw [fractionAt]
    rintro more ⟨⟩
    exact notPoint rfl
  simp only [mantissaAt, whole, List.length_nil, List.drop_zero, fraction, List.append_nil]

theorem mantissaAt_symbol (symbol : (lexeme, kind) ∈ symbols) (apart : Apart rest) :
    mantissaAt (lexeme ++ rest) = [] := by
  have fronts : ∀ symbol ∈ symbols,
      symbol.1 ≠ [] ∧ (symbol.1 = ['.'] ∨ symbol.1.head? ≠ some '.') := by
    decide
  obtain ⟨some, point | other⟩ := fronts _ symbol
  · have none : rest.takeWhile isDigit = [] := by
      cases rest with
      | nil => rfl
      | cons c rest => exact List.takeWhile_cons_of_neg (by simp [apart.not_isDigit c rfl])
    have point : lexeme = ['.'] := point
    have whole : List.takeWhile isDigit ('.' :: rest) = [] := List.takeWhile_cons_of_neg (by decide)
    simp [point, mantissaAt, whole, fractionAt, none]
  · obtain ⟨c, more, rfl⟩ := List.exists_cons_of_ne_nil some
    obtain ⟨-, notDigit, -⟩ := chars_of_mem_symbols symbol List.mem_cons_self
    refine mantissaAt_cons notDigit ?_ (more ++ rest)
    rintro rfl
    exact other rfl

theorem lexemeAt?_symbol {cs : List Char} {symbol : List Char × Kind}
    (mantissa : mantissaAt cs = []) (found : symbolAt? cs = some symbol) : lexemeAt? cs = some symbol := by
  simp [lexemeAt?, numberAt, mantissa, found]

theorem opens_symbol (symbol : (lexeme, kind) ∈ symbols) (apart : Apart rest) :
    Opens (lexeme ++ rest) lexeme kind := by
  have mantissa := mantissaAt_symbol symbol apart
  have solid : ∀ symbol ∈ symbols, ∀ c ∈ symbol.1, isBlank c = false :=
    fun symbol member c among => (chars_of_mem_symbols member among).1
  have alone : ∀ symbol ∈ symbols, symbolAt? symbol.1 = some symbol := by decide
  have solidOperators : ∀ operator ∈ strictEqualities, ∀ c ∈ operator, isBlank c = false := by
    have all : ∀ operator ∈ strictEqualities, (operator.all fun c => !isBlank c) = true := by
      decide +kernel
    intro operator member c among
    simpa using List.all_eq_true.mp (all operator member) c among
  have permitted : ∀ symbol ∈ symbols, strictEqualities.find? (·.isPrefixOf symbol.1) = none := by
    decide
  refine ⟨?_, ?_⟩
  · have none : strictEqualities.find? (·.isPrefixOf (lexeme ++ rest)) = none :=
      (find?_isPrefixOf_append solidOperators apart).trans (permitted _ symbol)
    simp [misreading?, none, openExponentAt?, mantissa]
  · have found : symbolAt? (lexeme ++ rest) = some (lexeme, kind) :=
      (find?_isPrefixOf_append solid apart).trans (alone _ symbol)
    exact lexemeAt?_symbol mantissa found

end

/-! ### Strings and names -/

/-- A character that numbers and symbols do not start with. -/
structure StartsWord (c : Char) : Prop where
  notDigit : isDigit c = false
  noSymbol : ∀ symbol ∈ symbols, symbol.1.head? ≠ some c

theorem eq_of_isQuote {quote : Char} (quotes : isQuote quote = true) :
    quote = '"' ∨ quote = '\'' := by
  rwa [isQuote, Bool.or_eq_true, beq_iff_eq, beq_iff_eq] at quotes

theorem startsWord_quote {quote : Char} (quotes : isQuote quote = true) : StartsWord quote := by
  rcases eq_of_isQuote quotes with rfl | rfl <;> exact ⟨by decide, by decide⟩

theorem startsWord_dollar : StartsWord '$' := ⟨by decide, by decide⟩

theorem startsWord_name {c : Char} (starts : isNameStart c = true) : StartsWord c := by
  rw [isNameStart, Bool.and_eq_true, Bool.not_eq_true'] at starts
  refine ⟨starts.2, fun symbol member first => ?_⟩
  obtain ⟨-, -, noWord⟩ := chars_of_mem_symbols member (List.mem_of_mem_head? first)
  exact Bool.false_ne_true (noWord.symm.trans starts.1)

section

variable {c : Char} {cs : List Char}

theorem StartsWord.mantissaAt_eq_nil (word : StartsWord c) (cs : List Char) :
    mantissaAt (c :: cs) = [] := by
  refine mantissaAt_cons word.notDigit ?_ cs
  rintro rfl
  exact word.noSymbol (['.'], .dot) (by decide) rfl

theorem StartsWord.symbolAt?_eq_none (word : StartsWord c) (cs : List Char) :
    symbolAt? (c :: cs) = none := by
  cases found : symbolAt? (c :: cs) with
  | none => rfl
  | some symbol =>
      obtain ⟨some, front⟩ := symbolAt?_isPrefix found
      obtain ⟨d, more, shape⟩ := List.exists_cons_of_ne_nil some
      rw [shape, List.cons_prefix_cons] at front
      refine absurd ?_ (word.noSymbol symbol (List.mem_of_find?_eq_some found))
      rw [shape, List.head?_cons, front.1]

theorem StartsWord.misreading?_eq_none (word : StartsWord c) (cs : List Char) :
    misreading? (c :: cs) = none := by
  refine Token.misreading?_eq_none ?_ ?_ ?_
  · rintro rfl
    exact word.noSymbol (['=', '='], .equal) (by decide) rfl
  · rintro rfl
    exact word.noSymbol (['!'], .not) (by decide) rfl
  · simp [openExponentAt?, word.mantissaAt_eq_nil cs]

theorem opens_string (quotes : isQuote c = true) {tail : List Char}
    (closes : stringTailAt? c cs = some tail) : Opens (c :: cs) (c :: tail) .string := by
  have word := startsWord_quote quotes
  refine ⟨word.misreading?_eq_none cs, ?_⟩
  simp [lexemeAt?, numberAt, word.mantissaAt_eq_nil, word.symbolAt?_eq_none, stringAt, quotes,
    closes]

theorem opens_word (word : StartsWord c) (unquoted : isQuote c = false)
    (some : identifierAt (c :: cs) ≠ []) :
    Opens (c :: cs) (identifierAt (c :: cs)) .identifier := by
  refine ⟨word.misreading?_eq_none cs, ?_⟩
  simp [lexemeAt?, numberAt, word.mantissaAt_eq_nil, word.symbolAt?_eq_none, stringAt, unquoted,
    some]

theorem ne_backslash_of_isQuote {quote : Char} (quotes : isQuote quote = true) : quote ≠ '\\' := by
  rintro rfl
  exact absurd quotes (by decide)

theorem stringTailAt?_append {quote : Char} (quotes : isQuote quote = true) {tail : List Char}
    (closes : stringTailAt? quote cs = some tail) (rest : List Char) :
    stringTailAt? quote (tail ++ rest) = some tail := by
  fun_induction stringTailAt? quote cs generalizing tail with
  | case1 => cases closes
  | case2 => cases closes
  | case3 c behind newline ih =>
      obtain ⟨inner, read, rfl⟩ := Option.map_eq_some_iff.mp closes
      simp [stringTailAt?, newline, ih read]
  | case4 behind =>
      cases closes
      rw [List.cons_append, stringTailAt?, if_pos rfl]
      exact fun c more same => absurd same (ne_backslash_of_isQuote quotes)
  | case5 => cases closes
  | case6 c behind _ other plain ih =>
      obtain ⟨inner, read, rfl⟩ := Option.map_eq_some_iff.mp closes
      rw [List.cons_append, stringTailAt?, if_neg other, if_neg plain, ih read]
      · rfl
      · exact fun d more same => absurd (.inl same) plain

/-- A character that starts names, and word characters after it. -/
inductive IsName : List Char → Prop where
  | intro {c : Char} {more : List Char} (starts : isNameStart c = true)
      (words : ∀ d ∈ more, isWord d = true) : IsName (c :: more)

theorem IsName.isWord {name : List Char} (isName : IsName name) :
    ∀ c ∈ name, isWord c = true := by
  cases isName with
  | intro starts words =>
      rw [isNameStart, Bool.and_eq_true] at starts
      exact List.forall_mem_cons.mpr ⟨starts.1, words⟩

theorem IsName.not_isDigit {name : List Char} (isName : IsName name) :
    ∀ c ∈ name.head?, isDigit c = false := by
  cases isName with
  | intro starts words =>
      rw [isNameStart, Bool.and_eq_true, Bool.not_eq_true'] at starts
      rintro _ ⟨⟩
      exact starts.2

theorem isName_nameAt (some : nameAt cs ≠ []) : IsName (nameAt cs) := by
  unfold nameAt at some ⊢
  split
  · exact absurd rfl some
  · split
    · rename_i starts
      exact .intro starts (List.all_eq_true.mp List.all_takeWhile)
    · rename_i others
      simp [others] at some

theorem isName_identifierAt (some : identifierAt cs ≠ []) :
    IsName (identifierAt cs) ∨ ∃ name, identifierAt cs = '$' :: name ∧ IsName name := by
  unfold identifierAt at some ⊢
  split at some
  · rename_i rest
    dsimp only at some ⊢
    split at some
    · exact absurd rfl some
    · rename_i named
      rw [if_neg named]
      exact .inr ⟨_, rfl, isName_nameAt (by simpa using named)⟩
  · exact .inl (isName_nameAt some)

theorem IsName.not_isBlank {name : List Char} (isName : IsName name) :
    ∀ c ∈ name.head?, isBlank c = false := by
  intro c first
  have word := isName.isWord c (List.mem_of_mem_head? first)
  rw [Bool.eq_false_iff]
  exact fun blank => Bool.false_ne_true ((not_isWord_of_isBlank blank).symm.trans word)

theorem IsName.nameAt_append {name rest : List Char} (isName : IsName name) (apart : Apart rest) :
    nameAt (name ++ rest) = name := by
  cases isName with
  | intro starts words =>
      rw [List.cons_append, nameAt, if_pos starts, List.takeWhile_append_of_pos words,
        apart.takeWhile_isWord, List.append_nil]

theorem opens_name {name rest : List Char} (isName : IsName name) (apart : Apart rest) :
    Opens (name ++ rest) name .identifier := by
  have whole := isName.nameAt_append apart
  cases isName with
  | @intro c more starts words =>
      have unquoted : isQuote c = false := by
        rw [Bool.eq_false_iff]
        intro quotes
        rcases eq_of_isQuote quotes with rfl | rfl <;> exact absurd starts (by decide +kernel)
      have read : identifierAt (c :: (more ++ rest)) = c :: more := by
        rw [List.cons_append] at whole
        rw [identifierAt, whole]
        rintro behind ⟨⟩
        exact absurd starts (by decide +kernel)
      have some : identifierAt (c :: (more ++ rest)) ≠ [] := by
        rw [read]
        exact List.cons_ne_nil c more
      have opens := opens_word (startsWord_name starts) unquoted some
      rwa [read, ← List.cons_append] at opens

theorem opens_dollar {name rest : List Char} (isName : IsName name) (apart : Apart rest) :
    Opens ('$' :: name ++ rest) ('$' :: name) .identifier := by
  have read : identifierAt ('$' :: (name ++ rest)) = '$' :: name := by
    have some : name.isEmpty = false := by
      cases isName
      rfl
    simp only [identifierAt, isName.nameAt_append apart, some]
    rfl
  have some : identifierAt ('$' :: (name ++ rest)) ≠ [] := by
    rw [read]
    exact List.cons_ne_nil '$' name
  have opens := opens_word startsWord_dollar (by decide) some
  rwa [read] at opens

end

/-! ### All lexemes -/

section

variable {cs lexeme behind rest : List Char} {kind : Kind}

theorem lexemeAt?_cases (found : lexemeAt? cs = some (lexeme, kind)) :
    kind = .number ∧ lexeme = numberAt cs ∨ (lexeme, kind) ∈ symbols ∨
      kind = .string ∧ lexeme = stringAt cs ∨ kind = .identifier ∧ lexeme = identifierAt cs := by
  unfold lexemeAt? at found
  split at found
  · cases found
    exact .inl ⟨rfl, rfl⟩
  · split at found
    · rename_i matched
      cases found
      exact .inr (.inl (List.mem_of_find?_eq_some matched))
    · split at found
      · cases found
        exact .inr (.inr (.inl ⟨rfl, rfl⟩))
      · split at found
        · cases found
          exact .inr (.inr (.inr ⟨rfl, rfl⟩))
        · cases found

theorem stringAt_eq (some : stringAt cs ≠ []) :
    ∃ quote tail more, isQuote quote = true ∧ stringAt cs = quote :: tail ∧
      stringTailAt? quote more = .some tail := by
  unfold stringAt at some ⊢
  split
  · exact absurd rfl some
  · rename_i quote more
    split
    · rename_i quotes
      split
      · rename_i tail closes
        exact ⟨quote, tail, more, quotes, rfl, closes⟩
      · rename_i opens
        simp [quotes, opens] at some
    · rename_i unquoted
      simp [unquoted] at some

/-- What is read as a token is read as this token before a blank, and at the end. -/
theorem opens_of_lexemeAt? (found : lexemeAt? cs = some (lexeme, kind)) (apart : Apart rest) :
    Opens (lexeme ++ rest) lexeme kind := by
  have some := (lexemeAt?_isPrefix found).1
  rcases lexemeAt?_cases found with ⟨rfl, rfl⟩ | symbol | ⟨rfl, rfl⟩ | ⟨rfl, rfl⟩
  · obtain ⟨whole, fraction, exponent, shape, numeral⟩ := numberAt_eq some
    rw [shape]
    exact opens_number numeral apart
  · exact opens_symbol symbol apart
  · obtain ⟨quote, tail, more, quotes, shape, closes⟩ := stringAt_eq some
    rw [shape]
    exact opens_string quotes (stringTailAt?_append quotes closes rest)
  · rcases isName_identifierAt some with isName | ⟨name, shape, isName⟩
    · exact opens_name isName apart
    · rw [shape]
      exact opens_dollar isName apart

/-- Nothing that is read as a token starts with a blank. -/
theorem not_isBlank_of_lexemeAt? (found : lexemeAt? cs = some (lexeme, kind)) :
    ∀ c ∈ lexeme.head?, isBlank c = false := by
  have some := (lexemeAt?_isPrefix found).1
  rcases lexemeAt?_cases found with ⟨rfl, rfl⟩ | symbol | ⟨rfl, rfl⟩ | ⟨rfl, rfl⟩
  · obtain ⟨whole, fraction, exponent, shape, numeral⟩ := numberAt_eq some
    obtain ⟨c, rest, front, first⟩ := numeral.front
    rw [shape, front]
    rintro _ ⟨⟩
    rcases first with digit | rfl
    · exact not_isBlank_of_isDigit digit
    · decide
  · exact fun c first => (chars_of_mem_symbols symbol (List.mem_of_mem_head? first)).1
  · obtain ⟨quote, tail, more, quotes, shape, -⟩ := stringAt_eq some
    rw [shape]
    rintro _ ⟨⟩
    rcases eq_of_isQuote quotes with rfl | rfl <;> decide
  · rcases isName_identifierAt some with isName | ⟨name, shape, -⟩
    · exact isName.not_isBlank
    · rw [shape]
      rintro _ ⟨⟩
      decide

end

/-- A token that can be read from some text. -/
def IsRead (token : Token) : Prop := ∃ cs, lexemeAt? cs = some (token.lexeme, token.kind)

theorem isRead_of_mem {source : String} {token : Token} (member : token ∈ (scan source).tokens) :
    token.IsRead := mem_tokens_scanFrom member

theorem lexeme_isPrefix {source : String} {token : Token} (member : token ∈ (scan source).tokens) :
    token.lexeme <+: source.toList.drop token.position := by
  obtain ⟨front, behind, split, there, -⟩ := (tiles_scan source).lexeme member
  rw [there, Nat.zero_add, split, List.drop_left]
  exact List.prefix_append _ _

section

variable {token : Token}

theorem kind_of_mem_symbols {symbol : List Char × Kind} (member : symbol ∈ symbols) :
    symbol.2 ≠ .number ∧ symbol.2 ≠ .string ∧ symbol.2 ≠ .identifier := by
  have all : ∀ symbol ∈ symbols,
      symbol.2 ≠ .number ∧ symbol.2 ≠ .string ∧ symbol.2 ≠ .identifier := by decide
  exact all symbol member

theorem IsRead.mem_symbols (read : token.IsRead) (noNumber : token.kind ≠ .number)
    (noString : token.kind ≠ .string) (noName : token.kind ≠ .identifier) :
    (token.lexeme, token.kind) ∈ symbols := by
  obtain ⟨cs, found⟩ := read
  rcases lexemeAt?_cases found with ⟨number, -⟩ | symbol | ⟨string, -⟩ | ⟨name, -⟩
  · exact absurd number noNumber
  · exact symbol
  · exact absurd string noString
  · exact absurd name noName

theorem IsRead.lexeme_eq (read : token.IsRead) {text : List Char}
    (symbol : (text, token.kind) ∈ symbols) : token.lexeme = text := by
  have unique : ∀ symbol ∈ symbols, ∀ other ∈ symbols, symbol.2 = other.2 → symbol.1 = other.1 := by
    decide
  obtain ⟨noNumber, noString, noName⟩ := kind_of_mem_symbols symbol
  exact unique _ (read.mem_symbols noNumber noString noName) _ symbol rfl

theorem IsRead.quoted (read : token.IsRead) (string : token.kind = .string) :
    ∃ quote, isQuote quote = true ∧ [quote] <+: token.lexeme := by
  obtain ⟨cs, found⟩ := read
  have some := (lexemeAt?_isPrefix found).1
  rw [string] at found
  rcases lexemeAt?_cases found with ⟨none, -⟩ | symbol | ⟨-, whole⟩ | ⟨none, -⟩
  · cases none
  · exact absurd rfl (kind_of_mem_symbols symbol).2.1
  · rw [whole] at some ⊢
    obtain ⟨quote, tail, more, quotes, shape, -⟩ := stringAt_eq some
    exact ⟨quote, quotes, shape ▸ List.prefix_append [quote] tail⟩
  · cases none

theorem toList_value (unquoted : token.kind ≠ .string) : token.value.toList = token.lexeme := by
  rw [value]
  split
  · rename_i string
    exact absurd string unquoted
  · exact String.toList_ofList

end

/-- What a token says, wherever it stands. -/
def content (t : Token) : Kind × List Char := (t.kind, t.lexeme)

theorem kind_congr {a b : Token} (same : a.content = b.content) : a.kind = b.kind :=
  (Prod.mk.inj same).1

theorem value_congr {a b : Token} (same : a.content = b.content) : a.value = b.value := by
  obtain ⟨kind, lexeme⟩ := Prod.mk.inj same
  rw [value, value, kind, lexeme]

end Token

end Formula
