import Formula.Proofs.Function.Builtin
import Formula.Proofs.Json.Numbers
import Formula.Proofs.Value.Equality

/-!
Values that are written as JSON are read back as they were. A text that was written opens with no
blank and no closing bracket, and what follows it inside of other values ends it.
-/

namespace Formula.Json

open Numeral

theorem points_writeString (t : Text) :
    (writeString t).points = .char '"' :: (t.points.flatMap escapePoint ++ [.char '"']) :=
  rfl

/-! ### Parts of readers -/

section

variable {nested : Reader Value} {cs more rest : List CodePoint} {v w : Value}

/-- A text opens like a value does. -/
def Opens (cs : List CodePoint) : Prop :=
  ∃ c tail, cs = .char c :: tail ∧ isBlank c = false ∧ c ∉ [']', '\x7d']

theorem Opens.append (opens : Opens cs) (tail : List CodePoint) : Opens (cs ++ tail) := by
  obtain ⟨c, own, rfl, blank, closing⟩ := opens
  exact ⟨c, own ++ tail, rfl, blank, closing⟩

theorem skipBlanks_cons {c : Char} (blank : isBlank c = false) (tail : List CodePoint) :
    skipBlanks (.char c :: tail) = .char c :: tail :=
  List.dropWhile_cons_of_neg (by rw [CodePoint.satisfies, blank]; decide)

/-- The character behind a value is found at once. -/
theorem Reads.next {α : Type} {ds : List CodePoint} {result : Except ReadError (Read α ds)} {a : α}
    {c : Char} (reads : Reads result a (.char c :: rest)) (blank : isBlank c = false) :
    ∃ r, result = .ok r ∧ r.value = a ∧ skipBlanks r.rest = .char c :: rest := by
  obtain ⟨r, read, own, left⟩ := reads
  refine ⟨r, read, own, ?_⟩
  rw [left]
  exact skipBlanks_cons blank rest

theorem Opens.skipBlanks (opens : Opens cs) : Json.skipBlanks cs = cs := by
  obtain ⟨c, tail, rfl, blank, -⟩ := opens
  exact skipBlanks_cons blank tail

theorem readItems_last {done : List Value} (opens : Opens cs)
    (element : Reads (nested cs) v (.char ']' :: rest)) :
    Reads (readItems nested done cs) (.array (v :: done).reverse) rest := by
  rw [← opens.skipBlanks] at element
  obtain ⟨r, read, rfl, closing⟩ := element.next rfl
  rw [readItems, read]
  dsimp only [bind, Except.bind]
  split
  · rename_i same
    rw [closing] at same
    cases same
    exact ⟨_, rfl, rfl, rfl⟩
  · rename_i same
    rw [closing] at same
    cases same
  · rename_i none _
    exact absurd closing (none _)

theorem readItems_more {done : List Value} (opens : Opens cs)
    (element : Reads (nested cs) v (.char ',' :: more))
    (others : Reads (readItems nested (v :: done) more) w rest) :
    Reads (readItems nested done cs) w rest := by
  rw [← opens.skipBlanks] at element
  obtain ⟨r, read, rfl, comma⟩ := element.next rfl
  rw [readItems, read]
  dsimp only [bind, Except.bind]
  split
  · rename_i same
    rw [comma] at same
    cases same
  · rename_i same
    rw [comma] at same
    cases same
    obtain ⟨all, readOthers, rfl, rfl⟩ := others
    rw [readOthers]
    exact ⟨_, rfl, rfl, rfl⟩
  · rename_i none
    exact absurd comma (none _)

theorem readArray_nil : Reads (readArray nested (.char ']' :: rest)) (.array []) rest := by
  have closing : skipBlanks (.char ']' :: rest) = .char ']' :: rest := skipBlanks_cons rfl rest
  unfold readArray
  split
  · rename_i same
    rw [closing] at same
    cases same
    exact ⟨_, rfl, rfl, rfl⟩
  · rename_i none
    exact absurd closing (none _)

theorem readArray_cons (opens : Opens cs) (items : Reads (readItems nested [] cs) v rest) :
    Reads (readArray nested cs) v rest := by
  unfold readArray
  split
  · rename_i same
    rw [opens.skipBlanks] at same
    obtain ⟨c, tail, shape, -, closing⟩ := opens
    rw [shape] at same
    cases same
    exact absurd closing (by decide)
  · exact items

/-- A name in quotes, a colon and a value are read as a field. -/
theorem readField_reads {name : Text} (opens : Opens cs) (value : Reads (nested cs) v rest) :
    Reads (readField nested ((writeString name).points ++ .char ':' :: cs)) (name, v) rest := by
  obtain ⟨r, read, own, colon⟩ := (readString_flatMap name.points [] (.char ':' :: cs)).next rfl
  have shape : (writeString name).points ++ .char ':' :: cs =
      .char '"' :: (name.points.flatMap escapePoint ++ .char '"' :: .char ':' :: cs) := by
    rw [points_writeString]
    simp
  rw [shape, readField, read]
  dsimp only [bind, Except.bind]
  split
  · rename_i same
    rw [colon] at same
    cases same
    rw [← opens.skipBlanks] at value
    obtain ⟨r', read', rfl, rfl⟩ := value
    rw [read']
    refine ⟨_, rfl, ?_, rfl⟩
    rw [own]
    rfl
  · rename_i none
    exact absurd colon (none _)

theorem readFields_last {done : List (Text × Value)} {name : Text} (opens : Opens cs)
    (field : Reads (readField nested cs) (name, v) (.char '\x7d' :: rest)) :
    Reads (readFields nested done cs) (.object (Record.put name v done)) rest := by
  rw [← opens.skipBlanks] at field
  obtain ⟨r, read, own, closing⟩ := field.next rfl
  rw [readFields, read]
  dsimp only [bind, Except.bind]
  rw [own]
  split
  · rename_i same
    rw [closing] at same
    cases same
    exact ⟨_, rfl, rfl, rfl⟩
  · rename_i same
    rw [closing] at same
    cases same
  · rename_i none _
    exact absurd closing (none _)

theorem readFields_more {done : List (Text × Value)} {name : Text} (opens : Opens cs)
    (field : Reads (readField nested cs) (name, v) (.char ',' :: more))
    (others : Reads (readFields nested (Record.put name v done) more) w rest) :
    Reads (readFields nested done cs) w rest := by
  rw [← opens.skipBlanks] at field
  obtain ⟨r, read, own, comma⟩ := field.next rfl
  rw [readFields, read]
  dsimp only [bind, Except.bind]
  rw [own]
  split
  · rename_i same
    rw [comma] at same
    cases same
  · rename_i same
    rw [comma] at same
    cases same
    obtain ⟨all, readOthers, rfl, rfl⟩ := others
    rw [readOthers]
    exact ⟨_, rfl, rfl, rfl⟩
  · rename_i none
    exact absurd comma (none _)

theorem readObject_nil : Reads (readObject nested (.char '\x7d' :: rest)) (.object []) rest := by
  have closing : skipBlanks (.char '\x7d' :: rest) = .char '\x7d' :: rest :=
    skipBlanks_cons rfl rest
  unfold readObject
  split
  · rename_i same
    rw [closing] at same
    cases same
    exact ⟨_, rfl, rfl, rfl⟩
  · rename_i none
    exact absurd closing (none _)

theorem readObject_cons (opens : Opens cs) (fields : Reads (readFields nested [] cs) v rest) :
    Reads (readObject nested cs) v rest := by
  unfold readObject
  split
  · rename_i same
    rw [opens.skipBlanks] at same
    obtain ⟨c, tail, shape, -, closing⟩ := opens
    rw [shape] at same
    cases same
    exact absurd closing (by decide)
  · exact fields

/-! ### Values of one piece -/

theorem readValueWith_text (t : Text) :
    Reads (readValueWith nested ((writeString t).points ++ rest)) (.text t) rest := by
  have shape : (writeString t).points ++ rest =
      .char '"' :: (t.points.flatMap escapePoint ++ .char '"' :: rest) := by
    rw [points_writeString]
    simp
  obtain ⟨r, read, own, left⟩ := readString_flatMap t.points [] rest
  rw [shape, readValueWith, read]
  refine ⟨_, rfl, ?_, left⟩
  exact congrArg Value.text own

/-- The names of null and of the truth values are read as these. -/
theorem readValueWith_word {word : Text} (named : (word, v) ∈ words.take 3) :
    Reads (readValueWith nested (word.points ++ rest)) v rest := by
  simp only [words, List.take_succ_cons, List.take_zero, List.mem_cons, List.not_mem_nil, or_false,
    Prod.mk.injEq] at named
  rcases named with ⟨rfl, rfl⟩ | ⟨rfl, rfl⟩ | ⟨rfl, rfl⟩
  · exact ⟨_, rfl, rfl, rfl⟩
  · exact ⟨_, rfl, rfl, rfl⟩
  · exact ⟨_, rfl, rfl, rfl⟩

/-- A digit is in front, perhaps behind a sign. -/
def opensNumber : List CodePoint → Bool
  | .char '-' :: .char c :: _ => c.isDigit
  | .char c :: _ => c.isDigit
  | _ => false

theorem opensNumber_cons {c : Char} (digit : c.isDigit = true) (tail : List CodePoint) :
    opensNumber (.char c :: tail) = true := by
  unfold opensNumber
  split
  · rename_i same
    cases same
    exact absurd digit (by decide)
  · rename_i same
    cases same
    exact digit
  · rename_i none
    exact absurd rfl (none c tail)

theorem opensNumber_points {whole fraction exponent : List Char}
    (plain : IsPlain whole fraction exponent) (negative : Bool) (rest : List CodePoint) :
    opensNumber (points (Decimal.signChars negative ++ (whole ++ fraction ++ exponent)) ++ rest) =
      true := by
  obtain ⟨c, digits, rfl⟩ := List.exists_cons_of_ne_nil plain.digits
  have digit := plain.ascii c (by simp) (plain.allDigits c List.mem_cons_self)
  cases negative with
  | true => exact digit
  | false => exact opensNumber_cons digit _

theorem exists_of_opensNumber (number : opensNumber cs = true) :
    ∃ c tail, cs = .char c :: tail ∧ (c.isDigit = true ∨ c = '-') := by
  unfold opensNumber at number
  split at number
  · exact ⟨_, _, rfl, .inr rfl⟩
  · exact ⟨_, _, rfl, .inl number⟩
  · cases number

theorem opens_of_opensNumber (number : opensNumber cs = true) : Opens cs := by
  obtain ⟨c, tail, rfl, digit | rfl⟩ := exists_of_opensNumber number
  · have other {d : Char} (letter : d.isDigit = false) : (c == d) = false := by
      rw [beq_eq_false_iff_ne]
      rintro rfl
      exact Bool.false_ne_true (letter.symm.trans digit)
    refine ⟨c, tail, rfl, ?_, ?_⟩
    · rw [isBlank, other rfl, other rfl, other rfl, other rfl]
      rfl
    · intro closing
      simp only [List.mem_cons, List.not_mem_nil, or_false] at closing
      rcases closing with rfl | rfl
      · exact absurd digit (by decide)
      · exact absurd digit (by decide)
  · exact ⟨'-', tail, rfl, by decide, by decide⟩

/-- No name of a value starts as numbers do. -/
theorem readWord?_of_opensNumber (number : opensNumber cs = true) : readWord? cs = none := by
  have apart : ∀ word ∈ words, ∀ tail, opensNumber (word.1.points ++ tail) = false := by
    intro word member tail
    simp only [words, List.mem_cons, List.not_mem_nil, or_false] at member
    rcases member with rfl | rfl | rfl | rfl | rfl | rfl <;> rfl
  have none : words.find? (fun word => word.1.points.isPrefixOf cs) = .none := by
    rw [List.find?_eq_none]
    intro word member front
    rw [List.isPrefixOf_iff_prefix] at front
    obtain ⟨tail, rfl⟩ := front
    exact Bool.false_ne_true ((apart word member tail).symm.trans number)
  rw [readWord?, word?, none]
  rfl

theorem readValueWith_number {x : Number} {negative : Bool} {whole fraction exponent : List Char}
    (written : WrittenAs x negative whole fraction exponent) (follows : Follows rest) :
    Reads (readValueWith nested
      (points (Decimal.signChars negative ++ (whole ++ fraction ++ exponent)) ++ rest))
        (.number x) rest := by
  have number := opensNumber_points written.plain negative rest
  have reads := written.readNumber follows
  generalize points (Decimal.signChars negative ++ (whole ++ fraction ++ exponent)) ++ rest = cs at *
  have apart {d : Char} (other : d.isDigit = false) (sign : d ≠ '-') (more : List CodePoint) :
      cs ≠ .char d :: more := by
    rintro rfl
    obtain ⟨c, tail, same, digit | minus⟩ := exists_of_opensNumber number
    · cases same
      exact Bool.false_ne_true (other.symm.trans digit)
    · cases same
      exact sign minus
  rw [readValueWith.eq_4, readWord?_of_opensNumber number]
  · exact reads
  · exact apart rfl (by decide)
  · exact apart rfl (by decide)
  · exact apart rfl (by decide)

end

/-! ### Arrays and objects -/

theorem readValueWith_array {nested : Reader Value} {cs rest : List CodePoint} {v : Value}
    (array : Reads (readArray nested cs) v rest) :
    Reads (readValueWith nested (.char '[' :: cs)) v rest := by
  rw [readValueWith]
  exact array.widen _

theorem readValueWith_object {nested : Reader Value} {cs rest : List CodePoint} {v : Value}
    (object : Reads (readObject nested cs) v rest) :
    Reads (readValueWith nested (.char '\x7b' :: cs)) v rest := by
  rw [readValueWith]
  exact object.widen _

/-- A value has a text that a reader takes back as the value. -/
def RoundTrips (nested : Reader Value) (v : Value) : Prop :=
  ∃ t, write v = .ok t ∧ Opens t.points ∧
    ∀ rest, Follows rest → Reads (nested (t.points ++ rest)) v rest

section

variable {nested : Reader Value}

theorem follows_cons {c : Char} (ends : c ∈ [',', ']', '\x7d']) (rest : List CodePoint) :
    Follows (.char c :: rest) := by
  intro p first
  cases first
  exact List.mem_map_of_mem ends

theorem follows_nil : Follows [] := fun _ none => nomatch none

/-- The elements of an array, read one by one behind those that were read before. -/
theorem readItems_writeItems (items : List Value) (some : items ≠ [])
    (each : ∀ v ∈ items, RoundTrips nested v) : ∃ t, writeItems items = .ok t ∧ Opens t.points ∧
      ∀ done rest, Reads (readItems nested done (t.points ++ .char ']' :: rest))
        (.array (done.reverse ++ items)) rest := by
  induction items with
  | nil => exact absurd rfl some
  | cons v items ih =>
      obtain ⟨t, written, opens, reads⟩ := each v List.mem_cons_self
      cases items with
      | nil =>
          refine ⟨t, written, opens, fun done rest => ?_⟩
          have last := reads (.char ']' :: rest) (follows_cons (by decide) rest)
          rw [← List.reverse_cons]
          exact readItems_last (opens.append _) last
      | cons w others =>
          obtain ⟨t', written', -, reads'⟩ := ih (List.cons_ne_nil _ _) fun u member =>
            each u (List.mem_cons_of_mem v member)
          refine ⟨t ++ Text.ofString "," ++ t', ?_, ?_, fun done rest => ?_⟩
          · rw [writeItems, written, written']
            rfl
          · exact (opens.append _).append _
          · have first := reads (.char ',' :: (t'.points ++ .char ']' :: rest))
              (follows_cons (by decide) _)
            have later := reads' (v :: done) rest
            rw [List.reverse_cons, List.append_assoc] at later
            have shape : (t ++ Text.ofString "," ++ t').points ++ .char ']' :: rest =
                t.points ++ .char ',' :: (t'.points ++ .char ']' :: rest) := by
              simp [Text.ofString, Text.ofChars]
            rw [shape]
            exact readItems_more (opens.append _) first later

/-- The fields of an object, put behind those that were read before. -/
theorem readFields_writeFields (fields : List (Text × Value)) (some : fields ≠ [])
    (each : ∀ field ∈ fields, RoundTrips nested field.2) :
    ∃ t, writeFields fields = .ok t ∧ Opens t.points ∧
      ∀ done rest, (Record.keys (done ++ fields)).Nodup →
        Reads (readFields nested done (t.points ++ .char '\x7d' :: rest))
          (.object (done ++ fields)) rest := by
  induction fields with
  | nil => exact absurd rfl some
  | cons field fields ih =>
      obtain ⟨name, v⟩ := field
      obtain ⟨t, written, opens, reads⟩ := each _ List.mem_cons_self
      have quote (tail : List CodePoint) : Opens ((writeString name).points ++ tail) :=
        ⟨'"', _, rfl, by decide, by decide⟩
      cases fields with
      | nil =>
          refine ⟨writeString name ++ Text.ofString ":" ++ t, ?_, ?_, fun done rest distinct => ?_⟩
          · rw [writeFields, written]
            rfl
          · rw [Text.points_append, Text.points_append, List.append_assoc]
            exact quote _
          · have shape :
                (writeString name ++ Text.ofString ":" ++ t).points ++ .char '\x7d' :: rest =
                  (writeString name).points ++ .char ':' :: (t.points ++ .char '\x7d' :: rest) := by
              simp [Text.ofString, Text.ofChars]
            have last := reads (.char '\x7d' :: rest) (follows_cons (by decide) rest)
            rw [shape, ← Record.put_of_nodup distinct]
            exact readFields_last (quote _) (readField_reads (opens.append _) last)
      | cons field others =>
          obtain ⟨t', written', -, reads'⟩ := ih (List.cons_ne_nil _ _) fun u member =>
            each u (List.mem_cons_of_mem _ member)
          refine ⟨writeString name ++ Text.ofString ":" ++ t ++ Text.ofString "," ++ t', ?_, ?_,
            fun done rest distinct => ?_⟩
          · rw [writeFields, written, written']
            rfl
          · simp only [Text.points_append, List.append_assoc]
            exact quote _
          · have shape :
                (writeString name ++ Text.ofString ":" ++ t ++ Text.ofString "," ++ t').points ++
                  .char '\x7d' :: rest = (writeString name).points ++ .char ':' ::
                    (t.points ++ .char ',' :: (t'.points ++ .char '\x7d' :: rest)) := by
              simp [Text.ofString, Text.ofChars]
            have first := reads (.char ',' :: (t'.points ++ .char '\x7d' :: rest))
              (follows_cons (by decide) _)
            have moved : done ++ (name, v) :: field :: others =
                (done ++ [(name, v)]) ++ field :: others := by simp
            have later := reads' (done ++ [(name, v)]) rest (by rwa [← moved])
            rw [← Record.put_of_nodup distinct] at later moved
            rw [shape, moved]
            exact readFields_more (quote _) (readField_reads (opens.append _) first) later

end

/-! ### Nested values -/

/-- Null, truth values, texts and numbers in range, with arrays and records of them nested up to a
depth. -/
inductive Writable : Nat → Value → Prop where
  | null {depth : Nat} : Writable depth .null
  | bool {depth : Nat} (b : Bool) : Writable depth (.bool b)
  | number {depth : Nat} {x : Number} (inRange : x.InRange) : Writable depth (.number x)
  | text {depth : Nat} (t : Text) : Writable depth (.text t)
  | array {depth : Nat} {items : List Value} (each : ∀ v ∈ items, Writable depth v) :
      Writable (depth + 1) (.array items)
  | object {depth : Nat} {fields : Record Text Value} (distinct : (Record.keys fields).Nodup)
      (each : ∀ field ∈ fields, Writable depth field.2) : Writable (depth + 1) (.object fields)

theorem roundTrips_word {nested : Reader Value} {v : Value} {word : Text}
    (named : (word, v) ∈ words.take 3) (written : write v = .ok word) :
    RoundTrips (readValueWith nested) v := by
  refine ⟨word, written, ?_, fun rest _ => readValueWith_word named⟩
  simp only [words, List.take_succ_cons, List.take_zero, List.mem_cons, List.not_mem_nil, or_false,
    Prod.mk.injEq] at named
  rcases named with ⟨rfl, -⟩ | ⟨rfl, -⟩ | ⟨rfl, -⟩
  · exact ⟨'n', _, rfl, by decide, by decide⟩
  · exact ⟨'t', _, rfl, by decide, by decide⟩
  · exact ⟨'f', _, rfl, by decide, by decide⟩

/-- Every value that can be written is read back by a reader that goes deeper than it is nested. -/
theorem Writable.roundTrips {depth : Nat} {v : Value} (writable : Writable depth v) (more : Nat) :
    RoundTrips (readValue (more + depth + 1)) v := by
  induction writable with
  | null => exact @roundTrips_word _ _ "null" (by simp [words]) rfl
  | bool b =>
      cases b with
      | true => exact @roundTrips_word _ _ "true" (by simp [words]) rfl
      | false => exact @roundTrips_word _ _ "false" (by simp [words]) rfl
  | number inRange =>
      obtain ⟨negative, whole, fraction, exponent, written⟩ := exists_writtenAs inRange
      have front := opens_of_opensNumber (opensNumber_points written.plain negative [])
      rw [List.append_nil] at front
      exact ⟨_, written.written, front, fun rest follows => readValueWith_number written follows⟩
  | text t =>
      have front : Opens (writeString t).points := ⟨'"', _, rfl, by decide, by decide⟩
      exact ⟨_, rfl, front, fun rest _ => readValueWith_text t⟩
  | @array depth items each ih =>
      have front (tail : List CodePoint) : Opens (.char '[' :: tail) :=
        ⟨'[', tail, rfl, by decide, by decide⟩
      cases items with
      | nil => exact ⟨Text.ofString "[" ++ "" ++ "]", rfl, front _, fun rest _ =>
          readValueWith_array readArray_nil⟩
      | cons v others =>
          obtain ⟨t, written, opens, reads⟩ :=
            readItems_writeItems (v :: others) (List.cons_ne_nil _ _) ih
          refine ⟨Text.ofString "[" ++ t ++ "]", ?_, front _, fun rest _ => ?_⟩
          · rw [write, written]
            rfl
          · have shape : (Text.ofString "[" ++ t ++ "]").points ++ rest =
                .char '[' :: (t.points ++ .char ']' :: rest) := by
              simp [Text.ofString, Text.ofChars]
            rw [shape]
            exact readValueWith_array (readArray_cons (opens.append _) (reads [] rest))
  | @object depth fields distinct each ih =>
      have front (tail : List CodePoint) : Opens (.char '\x7b' :: tail) :=
        ⟨'\x7b', tail, rfl, by decide, by decide⟩
      cases fields with
      | nil => exact ⟨Text.ofString "\x7b" ++ "" ++ "\x7d", rfl, front _, fun rest _ =>
          readValueWith_object readObject_nil⟩
      | cons field others =>
          obtain ⟨t, written, opens, reads⟩ :=
            readFields_writeFields (field :: others) (List.cons_ne_nil _ _) ih
          refine ⟨Text.ofString "\x7b" ++ t ++ "\x7d", ?_, front _, fun rest _ => ?_⟩
          · rw [write, written]
            rfl
          · have shape : (Text.ofString "\x7b" ++ t ++ "\x7d").points ++ rest =
                .char '\x7b' :: (t.points ++ .char '\x7d' :: rest) := by
              simp [Text.ofString, Text.ofChars]
            rw [shape]
            exact readValueWith_object (readObject_cons (opens.append _) (reads [] rest distinct))

/-- What can be written equals itself. -/
theorem Writable.plain {depth : Nat} {v : Value} (writable : Writable depth v) : v.Plain := by
  induction writable with
  | null | bool b | text t =>
      exact Value.plain_of_parts (fun _ same => nomatch same) rfl (fun _ same => nomatch same)
        fun _ member => absurd member List.not_mem_nil
  | number inRange =>
      exact Value.plain_of_parts (fun _ same => nomatch same) inRange.isNaN
        (fun _ same => nomatch same) fun _ member => absurd member List.not_mem_nil
  | array each ih =>
      exact Value.plain_of_parts (fun _ same => nomatch same) rfl (fun _ same => nomatch same) ih
  | object distinct each ih =>
      refine Value.plain_of_parts (fun _ same => ?_) rfl (fun _ same => nomatch same)
        fun part member => ?_
      · cases same
        exact distinct
      · obtain ⟨field, entry, rfl⟩ := List.mem_map.mp member
        exact ih field entry

/-- A value nested at most a hundred times has a text, which is read as the value. -/
theorem Writable.read_write {v : Value} (writable : Writable 100 v) :
    ∃ t, write v = .ok t ∧ read t = .ok v := by
  obtain ⟨t, written, opens, reads⟩ := writable.roundTrips 799
  have whole := reads [] follows_nil
  rw [List.append_nil, ← opens.skipBlanks] at whole
  obtain ⟨r, result, rfl, none⟩ := whole
  refine ⟨t, written, ?_⟩
  have reader : readValue maxDepth (skipBlanks t.points) = .ok r := result
  rw [read, reader]
  dsimp only [bind, Except.bind]
  rw [none]
  rfl

end Formula.Json

namespace Formula.Texts

/-- Parsing the JSON text of a value gives the value back, with the fields of its objects in their
order: for null, truth values, texts, integers of at most ten thousand bits, finite floats, and
arrays and objects of them, nested at most a hundred times. -/
theorem jsonParse_jsonStringify (c : Context) (v : Value) (writable : Json.Writable 100 v) :
    ∃ t, jsonStringifyFunction.call c [v] = .ok (.text t) ∧
      jsonParseFunction.call c [.text t] = .ok v ∧ v.equals v = true := by
  obtain ⟨t, written, read⟩ := writable.read_write
  have checked : v.check = .ok v := by
    cases writable with
    | number inRange => exact congrArg (Except.map Value.number) inRange.check
    | _ => rfl
  refine ⟨t, Definition.call_eq_ok_iff.mpr ⟨.text t, ?_, rfl⟩,
    Definition.call_eq_ok_iff.mpr ⟨v, ?_, checked⟩, Value.equals_self writable.plain⟩
  · change ((Json.write v).map Value.text).mapError _ = _
    rw [written]
    rfl
  · change parseJson (.text t) = _
    unfold parseJson
    dsimp only [Value.text?]
    rw [read]

theorem jsonParse_jsonStringify_nested :
    let context : Context := {
      clock := .ofMoment .universal (.atMidnight ⟨2024, 1, 15, by decide⟩ none) }
    let v : Value := .object [
      ("x\n", .array [.int (-7), .float (Float.ofBits 0x3FB999999999999A), .array []]),
      ("", .null)]
    Json.Writable 100 v ∧ ∃ t, jsonStringifyFunction.call context [v] = .ok (.text t) ∧
      jsonParseFunction.call context [.text t] = .ok v ∧ v.equals v = true := by
  intro context v
  have writable : Json.Writable 100 v := by
    refine .object (by decide) ?_
    simp only [List.forall_mem_cons]
    refine ⟨.array ?_, .null, fun _ none => nomatch none⟩
    simp only [List.forall_mem_cons]
    have nothing : Json.Writable 98 (.array []) := .array fun _ none => nomatch none
    refine ⟨.number ?_, .number ?_, nothing, fun _ none => nomatch none⟩
    · decide
    · decide +kernel
  exact ⟨writable, jsonParse_jsonStringify context v writable⟩

end Formula.Texts
