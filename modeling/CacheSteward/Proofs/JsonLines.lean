import CacheSteward.Proofs.JsonReading

namespace CacheSteward.Json

open Value (jsonString jsonReal JsonLayout writeJson writeItems writeEntries jsonLine)

/-! Lines of JSON.

Whatever is nested in a value, what is written of it on one line can be seen and is read back as
that value.  So no two values share a line.
-/

/-! ### Scalars -/

/-- A text that is read as this item, whatever may follow it. -/
def Reads {α : Type} (readItem : List Char → Option (α × List Char)) (item : α) (text : String) :
    Prop :=
  ∀ {rest}, Ends rest → readItem (text.toList ++ rest) = some (item, rest)

/-- A text that can be seen and is read as this item, at every depth that its length allows. -/
structure Legible {α : Type} (readAt : Nat → List Char → Option (α × List Char)) (item : α)
    (text : String) : Prop where
  printed : ∀ c ∈ text.toList, isPrinted c = true
  reads : ∀ {depth}, text.length ≤ depth → Reads (readAt depth) item text

theorem Legible.text (s : String) : Legible readValue (.text s) (jsonString s) where
  printed := fun _ => isPrinted_of_mem_jsonString
  reads := by
    intro depth enough rest _
    rw [← String.length_toList, toList_jsonString, List.length_cons] at enough
    obtain ⟨depth, rfl⟩ : ∃ n, depth = n + 1 := ⟨depth - 1, by omega⟩
    rw [toList_jsonString, List.cons_append, List.append_assoc, List.singleton_append,
      readValue_quote, readText_jsonString]
    rfl

theorem Legible.word {v : Value} {word : String} (given : word.toList ≠ [])
    (plain : ∀ c ∈ word.toList, isWordChar c = true) (named : readWord word.toList = some v) :
    Legible readValue v word where
  printed := fun c member => by
    have bounds := bounds_of_isWordChar (plain c member)
    exact isPrinted_iff.mpr ⟨by omega, bounds.2⟩
  reads := by
    intro depth enough rest ends
    have counted : 0 < word.toList.length := List.length_pos_iff.mpr given
    rw [← String.length_toList] at enough
    obtain ⟨depth, rfl⟩ : ∃ n, depth = n + 1 := ⟨depth - 1, by omega⟩
    rw [readValue_word given plain ends, named]
    rfl

theorem Legible.constant {name : String} {v : Value} (listed : (name, v) ∈ constants) :
    Legible readValue v name := by
  obtain ⟨given, plain⟩ := isWordChar_constants _ listed
  exact .word given plain (readWord_constants _ listed)

/-- A number, which is written with digits and what else a numeral holds. -/
theorem Legible.number {v : Value} {negative : Bool} {body : List Char} (given : body ≠ [])
    (plain : ∀ c ∈ body, Decimal.isNumeralChar c = true)
    (named : readNumber (Decimal.signedText negative body) = some v) :
    Legible readValue v (String.ofList (Decimal.signedText negative body)) := by
  have word := @String.toList_ofList (Decimal.signedText negative body)
  refine .word ?_ ?_ ?_ <;> rw [word]
  · cases negative with
    | true => exact List.cons_ne_nil _ _
    | false => exact given
  · exact fun c member =>
      isWordChar_of_isNumeralChar (Decimal.isNumeralChar_of_mem_signedText plain c member)
  · rw [readWord, named, Option.some_or]

theorem Legible.whole (n : Int) : Legible readValue (.whole n) (toString n) := by
  have named := readNumber_whole n
  rw [← @String.ofList_toList (toString n)]
  rw [toList_toString] at named ⊢
  exact .number (Decimal.digitsOf_ne_nil _)
    (fun _ member => Decimal.isNumeralChar_of_isDigit (Decimal.isDigit_of_mem_digitsOf member))
    named

theorem Legible.real (x : Float) : Legible readValue (.real x) (jsonReal x) := by
  cases expanded : Decimal.Expansion.of x with
  | notANumber =>
      rw [jsonReal, expanded, Decimal.Expansion.eq_of_notANumber expanded]
      exact .constant (by simp [constants])
  | infinite negative =>
      rw [jsonReal, expanded, Decimal.Expansion.eq_of_infinite expanded]
      cases negative <;> exact .constant (by simp [constants])
  | finite negative mantissa exponent narrowBelow =>
      obtain ⟨body, digits, place, written, numeral, -⟩ := Decimal.natural_of_finite expanded
      obtain ⟨c, rest, starts, -⟩ := numeral.starts
      have named := readNumber_natural expanded
      rw [written, String.toList_ofList] at named
      rw [jsonReal, expanded]
      dsimp only
      rw [written]
      exact .number (starts ▸ List.cons_ne_nil c rest) numeral.isNumeralChar named

/-! ### Lists and mappings -/

/-- Texts with a comma and a blank between them. -/
def separated (texts : List String) : List Char := [',', ' '].intercalate (texts.map String.toList)

theorem separated_singleton (text : String) : separated [text] = text.toList :=
  List.intercalate_singleton

theorem separated_cons_cons (first second : String) (texts : List String) :
    separated (first :: second :: texts) =
      first.toList ++ ',' :: ' ' :: separated (second :: texts) := by
  simp [separated, List.intercalate_cons_cons]

theorem mem_separated {texts : List String} {c : Char} (member : c ∈ separated texts) :
    c = ',' ∨ c = ' ' ∨ ∃ text ∈ texts, c ∈ text.toList := by
  induction texts with
  | nil => cases member
  | cons first texts ih =>
      cases texts with
      | nil => exact .inr (.inr ⟨first, .head _, by rwa [separated_singleton] at member⟩)
      | cons second texts =>
          rw [separated_cons_cons, List.mem_append, List.mem_cons, List.mem_cons] at member
          rcases member with inside | comma | blank | later
          · exact .inr (.inr ⟨first, .head _, inside⟩)
          · exact .inl comma
          · exact .inr (.inl blank)
          · exact (ih later).imp_right (Or.imp_right fun ⟨text, listed, inside⟩ =>
              ⟨text, .tail _ listed, inside⟩)

theorem length_le_separated {texts : List String} {text : String} (listed : text ∈ texts) :
    text.length ≤ (separated texts).length := by
  induction texts with
  | nil => cases listed
  | cons first texts ih =>
      cases texts with
      | nil =>
          rw [List.mem_singleton.mp listed, separated_singleton, String.length_toList]
      | cons second texts =>
          rw [separated_cons_cons, List.length_append, List.length_cons, List.length_cons,
            String.length_toList]
          rcases List.mem_cons.mp listed with rfl | later
          · omega
          · have within := ih later
            omega

theorem count_le_separated (texts : List String) :
    texts.length ≤ (separated texts).length + 1 := by
  induction texts with
  | nil => exact Nat.zero_le _
  | cons first texts ih =>
      cases texts with
      | nil => exact Nat.succ_le_succ (Nat.zero_le _)
      | cons second texts =>
          simp only [separated_cons_cons, List.length_append, List.length_cons] at ih ⊢
          omega

/-- How a list or a mapping is written on one line. -/
theorem toList_enclose_line (depth : Nat) (opening closing : String) (texts : List String) :
    (JsonLayout.line.enclose depth opening closing texts).toList =
      opening.toList ++ separated texts ++ closing.toList := by
  cases texts with
  | nil => simp [JsonLayout.enclose, separated]
  | cons first texts => simp [JsonLayout.enclose, separated, String.toList_intercalate]

section Series

variable {α : Type} {readItem : List Char → Option (α × List Char)} {closing : Char}

def IsClosing (closing : Char) : Prop := closing = ']' ∨ closing = '\x7d'

theorem IsClosing.ends (bracket : IsClosing closing) (rest : List Char) :
    Ends (closing :: rest) := by
  rintro c ⟨⟩
  rcases bracket with rfl | rfl <;> rfl

theorem IsClosing.not_isBlank (bracket : IsClosing closing) : isBlank closing = false := by
  rcases bracket with rfl | rfl <;> rfl

theorem IsClosing.ne_comma (bracket : IsClosing closing) : closing ≠ ',' := by
  rcases bracket with rfl | rfl <;> decide

theorem isBlank_comma : isBlank ',' = false := rfl

theorem Ends.comma (rest : List Char) : Ends (',' :: rest) := by
  rintro c ⟨⟩
  rfl

section Step

variable {text rest : List Char} {item : α} {most : Nat}

theorem readItems_of_none (refused : readItem text = none) :
    readItems readItem closing most text = none := by
  cases most with
  | zero => rfl
  | succ most =>
      rw [readItems, refused]
      rfl

theorem readItems_of_closing (bracket : IsClosing closing)
    (last : readItem text = some (item, closing :: rest)) :
    readItems readItem closing (most + 1) text = some ([item], rest) := by
  rw [readItems, last]
  simp [skipBlanks_cons bracket.not_isBlank, bracket.ne_comma]

theorem readItems_of_comma (first : readItem text = some (item, ',' :: rest)) :
    readItems readItem closing (most + 1) text =
      (readItems readItem closing most rest).map (Prod.map (item :: ·) id) := by
  rw [readItems, first]
  simp [skipBlanks_cons isBlank_comma]

theorem readItems_blank (skips : ∀ text, readItem (' ' :: text) = readItem text) :
    readItems readItem closing most (' ' :: text) = readItems readItem closing most text := by
  cases most with
  | zero => rfl
  | succ most => rw [readItems, readItems, skips]

end Step

/-- Items are read one after the other, up to the bracket behind the last one. -/
theorem readItems_separated (bracket : IsClosing closing)
    (skips : ∀ text, readItem (' ' :: text) = readItem text) {item : α} {items : List α}
    {text : String} {texts : List String}
    (each : List.Forall₂ (Reads readItem) (item :: items) (text :: texts)) {most : Nat}
    (enough : texts.length < most) (rest : List Char) :
    readItems readItem closing most (separated (text :: texts) ++ closing :: rest) =
      some (item :: items, rest) := by
  obtain ⟨most, rfl⟩ : ∃ n, most = n + 1 := ⟨most - 1, by omega⟩
  induction texts generalizing item items text most with
  | nil =>
      obtain - | ⟨first, others⟩ := each
      cases others
      rw [separated_singleton]
      exact readItems_of_closing bracket (first (bracket.ends rest))
  | cons second texts ih =>
      obtain - | ⟨first, others⟩ := each
      cases others with
      | cons next later =>
          rw [List.length_cons] at enough
          obtain ⟨most, rfl⟩ : ∃ n, most = n + 1 := ⟨most - 1, by omega⟩
          have behind :=
            first (Ends.comma (' ' :: (separated (second :: texts) ++ closing :: rest)))
          have tail := ih (.cons next later) most (by omega)
          rw [separated_cons_cons, List.append_assoc]
          rw [List.cons_append, List.cons_append, readItems_of_comma behind, readItems_blank skips,
            tail]
          rfl

theorem readSeries_separated (bracket : IsClosing closing)
    (skips : ∀ text, readItem (' ' :: text) = readItem text)
    (refuses : ∀ text, readItem (closing :: text) = none) {items : List α} {texts : List String}
    (each : List.Forall₂ (Reads readItem) items texts) (rest : List Char) :
    readSeries readItem closing (separated texts ++ closing :: rest) = some (items, rest) := by
  cases each with
  | nil =>
      change (readItems readItem closing (closing :: rest).length (closing :: rest)).or
        (readNoItems closing (closing :: rest)) = _
      rw [readItems_of_none (refuses rest), Option.none_or, readNoItems,
        skipBlanks_cons bracket.not_isBlank]
      exact if_pos rfl
  | @cons item text items texts first later =>
      have counted := count_le_separated (text :: texts)
      rw [readSeries, readItems_separated bracket skips (.cons first later) ?_, Option.some_or]
      rw [List.length_append, List.length_cons]
      rw [List.length_cons] at counted
      omega

variable {readAt : Nat → List Char → Option (α × List Char)} {items : List α} {texts : List String}

theorem reads_of_legible {depth : Nat} (each : List.Forall₂ (Legible readAt) items texts)
    (enough : ∀ text ∈ texts, text.length ≤ depth) :
    List.Forall₂ (Reads (readAt depth)) items texts := by
  induction each with
  | nil => exact .nil
  | @cons item text items texts first later ih =>
      exact .cons (first.reads (enough text (.head _)))
        (ih fun text listed => enough text (.tail _ listed))

theorem printed_of_legible (each : List.Forall₂ (Legible readAt) items texts) :
    ∀ text ∈ texts, ∀ c ∈ text.toList, isPrinted c = true := by
  induction each with
  | nil => nofun
  | @cons item first items texts legible later ih =>
      intro text listed
      rcases List.mem_cons.mp listed with rfl | behind
      · exact legible.printed
      · exact ih text behind

/-- Legible items between brackets are legible as a whole. -/
theorem Legible.enclosed {whole : Value} {front back : String} (opening : Char)
    (bracket : IsClosing closing) (layoutDepth : Nat)
    (opened : front.toList = [opening]) (closed : back.toList = [closing])
    (seen : isPrinted opening = true)
    (opens : ∀ {depth text rest}, readSeries (readAt depth) closing text = some (items, rest) →
      readValue (depth + 1) (opening :: text) = some (whole, rest))
    (skips : ∀ depth text, readAt depth (' ' :: text) = readAt depth text)
    (refuses : ∀ depth text, readAt depth (closing :: text) = none)
    (each : List.Forall₂ (Legible readAt) items texts) :
    Legible readValue whole (JsonLayout.line.enclose layoutDepth front back texts) where
  printed := by
    have closes : isPrinted closing = true := by rcases bracket with rfl | rfl <;> rfl
    intro c member
    rw [toList_enclose_line, opened, closed, List.mem_append, List.mem_append,
      List.mem_singleton, List.mem_singleton] at member
    rcases member with (rfl | inside) | rfl
    · exact seen
    · rcases mem_separated inside with rfl | rfl | ⟨text, listed, within⟩
      · rfl
      · rfl
      · exact printed_of_legible each text listed c within
    · exact closes
  reads := by
    intro depth enough rest _
    rw [← String.length_toList, toList_enclose_line, opened, closed] at enough
    simp only [List.length_append, List.length_singleton] at enough
    obtain ⟨depth, rfl⟩ : ∃ n, depth = n + 1 := ⟨depth - 1, by omega⟩
    have fits : ∀ text ∈ texts, text.length ≤ depth := by
      intro text listed
      have within := length_le_separated listed
      omega
    rw [toList_enclose_line, opened, closed]
    simp only [List.append_assoc, List.singleton_append]
    exact opens (readSeries_separated bracket (skips depth) (refuses depth)
      (reads_of_legible each fits) rest)

end Series

theorem readValue_blank (depth : Nat) (text : List Char) :
    readValue depth (' ' :: text) = readValue depth text := by
  cases depth <;> rfl

theorem Legible.list {items : List Value} {texts : List String} (layoutDepth : Nat)
    (each : List.Forall₂ (Legible readValue) items texts) :
    Legible readValue (.list items) (JsonLayout.line.enclose layoutDepth "[" "]" texts) := by
  have refuses (depth : Nat) (text : List Char) : readValue depth (']' :: text) = none := by
    cases depth <;> rfl
  refine .enclosed '[' (.inl rfl) layoutDepth rfl rfl rfl ?_ readValue_blank refuses each
  intro depth text rest read
  rw [readValue_bracket, read]
  rfl

theorem Legible.entry (key : String) {v : Value} {text : String}
    (legible : Legible readValue v text) :
    Legible (fun depth => readEntry (readValue depth)) (.text key, v)
      (jsonString key ++ ": " ++ text) where
  printed := by
    intro c member
    simp only [String.toList_append, List.mem_append, String.reduceToList, List.mem_cons,
      List.not_mem_nil, or_false] at member
    rcases member with (inside | rfl | rfl) | behind
    · exact isPrinted_of_mem_jsonString inside
    · rfl
    · rfl
    · exact legible.printed c behind
  reads := by
    intro depth enough rest ends
    have fits : text.length ≤ depth := by
      rw [String.length_append] at enough
      omega
    have value := legible.reads fits ends
    rw [← readValue_blank] at value
    have key := readText_jsonString key (':' :: ' ' :: (text.toList ++ rest))
    simp only [String.toList_append, toList_jsonString, String.reduceToList, List.cons_append,
      List.append_assoc, List.nil_append]
    simp [readEntry, skipBlanks_cons (show isBlank '"' = false from rfl), key,
      skipBlanks_cons (show isBlank ':' = false from rfl), value]

theorem Legible.mapping {entries : List (Value × Value)} {texts : List String} (layoutDepth : Nat)
    (each : List.Forall₂ (Legible fun depth => readEntry (readValue depth)) entries texts) :
    Legible readValue (.mapping entries)
      (JsonLayout.line.enclose layoutDepth "\x7b" "\x7d" texts) := by
  refine .enclosed '\x7b' (.inr rfl) layoutDepth rfl rfl rfl ?_ (fun _ _ => rfl)
    (fun _ _ => rfl) each
  intro depth text rest read
  rw [readValue_brace, read]
  rfl

/-! ### What is written -/

/-- Values of JSON, nested as deep as may be.  The keys of their mappings are texts. -/
inductive IsJson : Value → Prop where
  | null : IsJson .null
  | flag (b : Bool) : IsJson (.flag b)
  | whole (n : Int) : IsJson (.whole n)
  | real (x : Float) : IsJson (.real x)
  | text (s : String) : IsJson (.text s)
  | list {items : List Value} (each : ∀ v ∈ items, IsJson v) : IsJson (.list items)
  | mapping {entries : List (String × Value)} (each : ∀ entry ∈ entries, IsJson entry.2) :
      IsJson (.fields entries)

section Writing

variable {lenient : Bool}

/-- A value of which something legible is written, at every depth. -/
def Written (lenient : Bool) (v : Value) : Prop :=
  ∀ depth, ∃ text, writeJson .line lenient depth v = .ok text ∧ Legible readValue v text

theorem writeItems_legible {items : List Value} (each : ∀ v ∈ items, Written lenient v)
    (depth : Nat) :
    ∃ texts, writeItems .line lenient depth items = .ok texts ∧
      List.Forall₂ (Legible readValue) items texts := by
  induction items with
  | nil => exact ⟨[], rfl, .nil⟩
  | cons v items ih =>
      obtain ⟨text, written, legible⟩ := each v (.head _) depth
      obtain ⟨texts, others, later⟩ := ih fun v listed => each v (.tail _ listed)
      refine ⟨text :: texts, ?_, .cons legible later⟩
      rw [writeItems, written, others]
      rfl

theorem writeEntries_legible {entries : List (String × Value)}
    (each : ∀ entry ∈ entries, Written lenient entry.2) (depth : Nat) :
    ∃ texts, writeEntries .line lenient depth (entries.map fun (k, v) => (.text k, v)) =
        .ok texts ∧
      List.Forall₂ (Legible fun depth => readEntry (readValue depth))
        (entries.map fun (k, v) => (.text k, v)) texts := by
  induction entries with
  | nil => exact ⟨[], rfl, .nil⟩
  | cons entry entries ih =>
      obtain ⟨key, v⟩ := entry
      obtain ⟨text, written, legible⟩ := each (key, v) (.head _) depth
      obtain ⟨texts, others, later⟩ := ih fun entry listed => each entry (.tail _ listed)
      refine ⟨(jsonString key ++ ": " ++ text) :: texts, ?_, .cons (legible.entry key) later⟩
      rw [List.map_cons, writeEntries, written, others]
      rfl

/-- Whatever is nested in a value of JSON, something legible is written of it. -/
theorem IsJson.written {v : Value} (json : IsJson v) : Written lenient v := by
  induction json with
  | null => exact fun _ => ⟨"null", rfl, .constant (by simp [constants])⟩
  | flag b =>
      intro depth
      refine ⟨if b then "true" else "false", by rw [writeJson], ?_⟩
      cases b <;> exact .constant (by simp [constants])
  | whole n => exact fun _ => ⟨toString n, by rw [writeJson], .whole n⟩
  | real x => exact fun _ => ⟨jsonReal x, by rw [writeJson], .real x⟩
  | text s => exact fun _ => ⟨jsonString s, by rw [writeJson], .text s⟩
  | list _ ih =>
      intro depth
      obtain ⟨texts, written, each⟩ := writeItems_legible ih (depth + 1)
      exact ⟨_, by rw [writeJson, written]; rfl, .list depth each⟩
  | mapping _ ih =>
      intro depth
      obtain ⟨texts, written, each⟩ := writeEntries_legible ih (depth + 1)
      exact ⟨_, by rw [Value.fields, writeJson, written]; rfl, .mapping depth each⟩

end Writing

end CacheSteward.Json
