import Formula.Engine
import Formula.Proofs.Expr.Depth
import Formula.Proofs.Expr.Recognition
import Formula.Proofs.Token.Coordinates
import Formula.Proofs.Token.Spacing

/-!
Every text can be written between quotes: backslashes, the quote and newlines are escaped. What is
written so is one token, and a formula with the text as its value.
-/

namespace Formula

namespace Token

/-- A character as it stands between some quotes. -/
def escapeChar (quote c : Char) : List Char :=
  if c = '\\' then ['\\', '\\']
  else if c = quote then ['\\', quote]
  else if c = '\n' then ['\\', 'n']
  else [c]

def escape (quote : Char) (cs : List Char) : List Char := cs.flatMap (escapeChar quote)

def quoted (quote : Char) (s : String) : String :=
  String.ofList (quote :: (escape quote s.toList ++ [quote]))

section

variable {quote : Char}

theorem unescape_escapeChar (quotes : isQuote quote = true) (c : Char) (rest : List Char) :
    unescape (escapeChar quote c ++ rest) = c :: unescape rest := by
  unfold escapeChar
  split
  · rename_i backslash
    subst backslash
    rfl
  · rename_i unescaped
    split
    · rename_i same
      subst same
      rcases eq_of_isQuote quotes with rfl | rfl <;> rfl
    · split
      · rename_i newline
        subst newline
        rfl
      · rw [List.cons_append, List.nil_append, unescape]
        exact fun d more same => absurd same unescaped

theorem unescape_escape (quotes : isQuote quote = true) (cs : List Char) :
    unescape (escape quote cs) = cs := by
  induction cs with
  | nil => rfl
  | cons c cs ih =>
      have front := unescape_escapeChar quotes c (escape quote cs)
      rwa [ih] at front

/-- What is escaped closes no string. -/
theorem stringTailAt?_escapeChar (quotes : isQuote quote = true) (c : Char) (rest : List Char) :
    stringTailAt? quote (escapeChar quote c ++ rest) =
      (stringTailAt? quote rest).map (escapeChar quote c ++ ·) := by
  have escaped : ∀ d, d ≠ '\n' → stringTailAt? quote ('\\' :: d :: rest) =
      (stringTailAt? quote rest).map fun tail => '\\' :: d :: tail := by
    intro d other
    rw [stringTailAt?, if_neg other]
  unfold escapeChar
  split
  · exact escaped '\\' (by decide)
  · rename_i unescaped
    split
    · refine escaped quote ?_
      rintro rfl
      exact absurd quotes (by decide)
    · rename_i open_
      split
      · exact escaped 'n' (by decide)
      · rename_i inline
        rw [List.cons_append, List.nil_append, stringTailAt?, if_neg open_,
          if_neg (not_or.mpr ⟨unescaped, inline⟩)]
        · rfl
        · exact fun d more same => absurd same unescaped

theorem stringTailAt?_escape (quotes : isQuote quote = true) (cs : List Char) :
    stringTailAt? quote (escape quote cs ++ [quote]) = some (escape quote cs ++ [quote]) := by
  induction cs with
  | nil =>
      change stringTailAt? quote [quote] = some [quote]
      rw [stringTailAt?, if_pos rfl]
      exact fun d more same => absurd same (ne_backslash_of_isQuote quotes)
  | cons c cs ih =>
      have whole : escape quote (c :: cs) = escapeChar quote c ++ escape quote cs := rfl
      rw [whole, List.append_assoc, stringTailAt?_escapeChar quotes, ih, Option.map_some]

theorem lexemeAt?_quoted (quotes : isQuote quote = true) (s : String) :
    lexemeAt? (quoted quote s).toList = some ((quoted quote s).toList, .string) := by
  have opens := opens_string quotes (stringTailAt?_escape quotes s.toList)
  rw [quoted, String.toList_ofList]
  exact opens.read

theorem tokens_quoted (quotes : isQuote quote = true) (s : String) :
    ∃ token, Token.tokens (quoted quote s) = .ok ([token], (quoted quote s).length) ∧
      token.kind = .string ∧ token.value = s := by
  let written : Token := ⟨.string, (quoted quote s).toList, 0, 1, 1⟩
  have spacing : Spacing [] [(written, [])] := ⟨nofun, by simp, by simp⟩
  have ahead : (Cursor.start (quoted quote s).toList).rest = spaced [] [(written, [])] := by
    simp [spaced, written, Cursor.start]
  have readable : ∀ piece ∈ [(written, ([] : List Char))], piece.1.IsRead :=
    List.forall_mem_singleton.mpr ⟨_, lexemeAt?_quoted quotes s⟩
  obtain ⟨none, contents⟩ := scanFrom_spaced ahead spacing readable
  obtain ⟨token, single, same⟩ := List.map_eq_singleton_iff.mp contents
  have read : (scan (quoted quote s)).tokens = [token] := single
  refine ⟨token, ?_, kind_congr same, ?_⟩
  · rw [← read]
    exact tokens_of_none none
  · have value : written.value = s := by
      have inside : ((quoted quote s).toList.drop 1).dropLast = escape quote s.toList := by
        rw [quoted, String.toList_ofList, List.drop_succ_cons, List.drop_zero, List.dropLast_concat]
      rw [Token.value]
      dsimp only [written]
      rw [inside, unescape_escape quotes, String.ofList_toList]
    rw [value_congr same, value]

end

end Token

namespace Expr

theorem parseWithin_string (host : Host) {source : String} {token : Token} {stop : Nat}
    (limits : Limits)
    (lexes : Token.tokens source = .ok ([token], stop)) (string : token.kind = .string)
    (short : source.length ≤ limits.maxLength) :
    parseWithin host limits source = .ok ⟨.literal .string token.value token.position, 1, 1⟩ := by
  obtain ⟨-, nesting, depth, nodes⟩ := limits.positive
  have derives : Derives [token] (.expression .conditional _) := (Derives.string string).ofPrimary _
  have room : [token].length ≤ min (limits.maxNesting : Int).toNat host.nesting := by
    have positive : 1 ≤ host.nesting := host.positive.1
    simp only [List.length_singleton, Int.toNat_natCast]
    omega
  have parsed : parse host source limits.maxNesting =
      .ok (.literal .string token.value token.position) := by
    rw [parse_of_tokens lexes, derives.ofTokens room]
    rfl
  unfold parseWithin
  rw [if_neg (Nat.not_lt.mpr short), bind_of_ok parsed, measure_eq]
  dsimp only [size, Expr.depth]
  rw [if_neg (Nat.not_lt.mpr depth), if_neg (Nat.not_lt.mpr nodes)]
  rfl

theorem value_string (raw : String) (position : Nat) (context : Context) (registry : Registry)
    (host : Host) {maxDepth : Nat} (positive : 0 < maxDepth) :
    (literal .string raw position).value context registry maxDepth host = .ok (.text raw) := by
  obtain ⟨deeper, levels⟩ : ∃ deeper, min (maxDepth : Int).toNat host.depth = deeper + 1 := by
    have followed : 0 < host.depth := host.positive.2
    exact ⟨min maxDepth host.depth - 1, by rw [Int.toNat_natCast]; omega⟩
  rw [value, levels]
  rfl

end Expr

namespace Engine

/-- Every text has a literal in quotes of either sort. The literal is a single token whose value is
the text, and as a formula it evaluates to the text, if its length is allowed. -/
theorem evaluate_quoted {quote : Char} (quotes : Token.isQuote quote = true) (s : String)
    (engine : Engine) (context : Context) :
    (∃ token, Token.tokens (Token.quoted quote s) = .ok ([token], (Token.quoted quote s).length) ∧
        token.kind = .string ∧ token.value = s) ∧
      ((Token.quoted quote s).length ≤ engine.limits.maxLength →
        engine.evaluate (Token.quoted quote s) context = .ok (.value (.text s))) := by
  obtain ⟨token, lexes, string, same⟩ := Token.tokens_quoted quotes s
  refine ⟨⟨token, lexes, string, same⟩, fun short => ?_⟩
  have parsed : engine.parse (Token.quoted quote s) =
      .ok ⟨.literal .string token.value token.position, 1, 1⟩ := by
    rw [parse, Expr.parseWithin_string engine.host engine.limits lexes string short]
    rfl
  have positive : 0 < engine.limits.maxDepth := engine.limits.positive.2.2.1
  rw [evaluate, parsed]
  dsimp only
  rw [evaluateTree, Expr.value_string _ _ _ _ _ positive, same]

theorem evaluate_quoted_line :
    let text := "say \"\\n\"\n"
    let source := "\"say \\\"\\\\n\\\"\\n\""
    let context : Context := {
      clock := .ofMoment .universal (.atMidnight ⟨2024, 1, 15, by decide⟩ none) }
    let engine : Engine := { host := .universal }
    Token.isQuote '"' = true ∧ Token.quoted '"' text = source ∧
      (∃ token, Token.tokens source = .ok ([token], 15) ∧ token.kind = .string ∧
        token.value = text) ∧
      engine.evaluate source context = .ok (.value (.text text)) := by
  intro text source context engine
  have quotes : Token.isQuote '"' = true := by decide
  have written : Token.quoted '"' text = source := by decide
  have length : source.length = 15 := by decide
  obtain ⟨reads, value⟩ := evaluate_quoted quotes text engine context
  rw [written, length] at reads
  rw [written] at value
  exact ⟨quotes, written, reads, value (by decide)⟩

end Engine

end Formula
