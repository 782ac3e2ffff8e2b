import RecordTypes.Json.OfText
import RecordTypes.Proofs.Json.Lexer
import RecordTypes.Proofs.Json.Members

/-! JSON values read back from their own texts. A text is cut into the tokens of its value, however
it is spread over lines, and from its tokens the value is put together again. -/

namespace RecordTypes

/-! ## Layouts -/

/-- Layouts that put nothing but blanks between the tokens. -/
structure JsonLayout.AddsBlanks (layout : JsonLayout) : Prop where
  opening : ∀ level, ∀ c ∈ layout.opening level, isJsonBlank c = true
  separator : ∀ level, ∃ blanks, layout.separator level = ',' :: blanks ∧
    ∀ c ∈ blanks, isJsonBlank c = true
  closing : ∀ level, ∀ c ∈ layout.closing level, isJsonBlank c = true

theorem isJsonBlank_of_mem_lineBreak {level : Nat} {c : Char} (h : c ∈ lineBreak level) :
    isJsonBlank c = true := by
  rcases List.mem_cons.mp h with rfl | h
  · decide
  · rw [List.eq_of_mem_replicate h]
    decide

theorem JsonLayout.spread_addsBlanks : JsonLayout.spread.AddsBlanks where
  opening _ _ := isJsonBlank_of_mem_lineBreak
  separator _ := ⟨_, rfl, fun _ => isJsonBlank_of_mem_lineBreak⟩
  closing _ _ := isJsonBlank_of_mem_lineBreak

theorem JsonLayout.inline_addsBlanks : JsonLayout.inline.AddsBlanks where
  opening _ := nofun
  separator _ := ⟨[' '], rfl, List.all_eq_true.mp rfl⟩
  closing _ := nofun

namespace Json

/-! ## Values and their tokens -/

/-- Values whose text says all about them: no object has a key twice, whole numbers have no more
digits than are read, and fractions are read as what they are. -/
inductive Writable : Json → Prop where
  | null : Writable .null
  | bool (b : Bool) : Writable (.bool b)
  | int {n : Int} (hlength : (Nat.toDigits 10 n.natAbs).length ≤ digitLimit) : Writable (.int n)
  | float {x : Float} (hnan : x.isNaN = false) (hback : ReadsBack x) : Writable (.float x)
  | str (s : String) : Writable (.str s)
  | arr {items : List Json} (hitems : ∀ item ∈ items, Writable item) : Writable (.arr items)
  | obj {members : Members} (hkeys : (members.map Prod.fst).Nodup)
      (hvalues : ∀ member ∈ members, Writable member.2) : Writable (.obj members)

mutual

def tokenList : Json → List Token
  | .str s => [.str s]
  | .arr [] => [.openArray, .closeArray]
  | .arr (item :: items) => .openArray :: (item.tokenList ++ itemTokens items)
  | .obj [] => [.openObject, .closeObject]
  | .obj ((key, value) :: members) =>
    .openObject :: .str key :: .colon :: (value.tokenList ++ memberTokens members)
  | value => [.scalar value]

/-- The tokens after an item, to the end of the array. -/
def itemTokens : List Json → List Token
  | [] => [.closeArray]
  | item :: items => .comma :: (item.tokenList ++ itemTokens items)

/-- The tokens after a member, to the end of the object. -/
def memberTokens : Members → List Token
  | [] => [.closeObject]
  | (key, value) :: members =>
    .comma :: .str key :: .colon :: (value.tokenList ++ memberTokens members)

end

/-! ## From the text to the tokens -/

theorem tokens_member {layout : JsonLayout} {value : Json} {level : Nat} {rest : List Char}
    {later : List Token} (key : String)
    (hvalue : tokens (value.textAt layout level) = some value.tokenList)
    (hrest : Delimited rest later) :
    tokens (asciiQuoted key.toList ++ ([':', ' '] ++ (value.textAt layout level ++ rest))) =
      some (.str key :: .colon :: (value.tokenList ++ later)) := by
  have hblank := (Delimited.cons (c := ' ') rfl (hrest.tokens_append hvalue)).tokens_eq
  exact (Delimited.cons (c := ':') rfl hblank).tokens_append (tokens_asciiQuoted key)

section
variable {layout : JsonLayout} (hlayout : layout.AddsBlanks)
include hlayout

theorem delimited_itemsText {items : List Json} (level : Nat)
    (h : ∀ item ∈ items, ∀ level, tokens (item.textAt layout level) = some item.tokenList) :
    Delimited (itemsText layout level items ++ (layout.closing level ++ [']']))
      (itemTokens items) := by
  induction items with
  | nil =>
    rw [itemsText, List.nil_append]
    exact (Delimited.cons (c := ']') rfl rfl).blanks (hlayout.closing level)
  | cons item items ih =>
    obtain ⟨hitem, hitems⟩ := List.forall_mem_cons.mp h
    obtain ⟨blanks, hseparator, hblanks⟩ := hlayout.separator level
    have hrest := (ih hitems).tokens_append (hitem (level + 1))
    rw [itemsText, hseparator, List.append_assoc, List.append_assoc]
    exact Delimited.cons (c := ',') rfl ((tokens_blanks hblanks _).trans hrest)

theorem delimited_membersText {members : Members} (level : Nat)
    (h : ∀ member ∈ members, ∀ level,
      tokens (member.2.textAt layout level) = some member.2.tokenList) :
    Delimited (membersText layout level members ++ (layout.closing level ++ ['\x7d']))
      (memberTokens members) := by
  induction members with
  | nil =>
    rw [membersText, List.nil_append]
    exact (Delimited.cons (c := '\x7d') rfl rfl).blanks (hlayout.closing level)
  | cons member members ih =>
    obtain ⟨key, value⟩ := member
    obtain ⟨hvalue, hmembers⟩ := List.forall_mem_cons.mp h
    obtain ⟨blanks, hseparator, hblanks⟩ := hlayout.separator level
    have hrest := tokens_member key (hvalue (level + 1)) (ih hmembers)
    rw [membersText, hseparator]
    simp only [List.append_assoc]
    exact Delimited.cons (c := ',') rfl ((tokens_blanks hblanks _).trans hrest)

theorem tokens_textAt {value : Json} (h : value.Writable) (level : Nat) :
    tokens (value.textAt layout level) = some value.tokenList := by
  induction h generalizing level with
  | null => exact tokens_of_wordValue rfl
  | bool b => cases b <;> exact tokens_of_wordValue rfl
  | int hlength => exact tokens_of_wordValue (wordValue_of_numeral (numeral_intText hlength))
  | float hnan hback => exact tokens_of_wordValue (wordValue_jsonFloatText hnan hback)
  | str s => exact tokens_asciiQuoted s
  | @arr items hitems ih =>
    cases items with
    | nil => rfl
    | cons item items =>
      obtain ⟨hitem, hitems⟩ := List.forall_mem_cons.mp ih
      have hrest := (delimited_itemsText hlayout level hitems).tokens_append (hitem (level + 1))
      have hopened := (tokens_blanks (hlayout.opening level) _).trans hrest
      rw [textAt]
      simp only [List.append_assoc]
      exact (Delimited.cons (c := '[') rfl hopened).tokens_eq
  | @obj members hkeys hvalues ih =>
    cases members with
    | nil => rfl
    | cons member members =>
      obtain ⟨key, value⟩ := member
      obtain ⟨hvalue, hmembers⟩ := List.forall_mem_cons.mp ih
      have hrest := tokens_member key (hvalue (level + 1))
        (delimited_membersText hlayout level hmembers)
      have hopened := (tokens_blanks (hlayout.opening level) _).trans hrest
      rw [textAt]
      simp only [List.append_assoc]
      exact (Delimited.cons (c := '\x7b') rfl hopened).tokens_eq

end

/-! ## From the tokens to the value -/

/-- A reader that meets the tokens of a value goes on as it does after the value. -/
def Reads (value : Json) : Prop :=
  ∀ stack rest, Expected.anyValue.ofTokens stack (value.tokenList ++ rest) =
    (Expected.afterValue value).ofTokens stack rest

theorem ofTokens_firstItem (value : Json) (stack : List Frame) (rest : List Token) :
    Expected.firstItem.ofTokens stack (value.tokenList ++ rest) =
      Expected.anyValue.ofTokens (.arr [] :: stack) (value.tokenList ++ rest) := by
  -- no value begins with the token that closes an array
  cases value with
  | arr items => cases items <;> rfl
  | obj members =>
    cases members with
    | nil => rfl
    | cons member members => rfl
  | _ => rfl

theorem ofTokens_items {items : List Json} (h : ∀ item ∈ items, item.Reads) (found : List Json)
    (last : Json) (stack : List Frame) (rest : List Token) :
    (Expected.afterValue last).ofTokens (.arr found :: stack) (itemTokens items ++ rest) =
      (Expected.afterValue (.arr (found.reverse ++ last :: items))).ofTokens stack rest := by
  induction items generalizing found last with
  | nil =>
    rw [← List.reverse_cons]
    rfl
  | cons item items ih =>
    obtain ⟨hitem, hitems⟩ := List.forall_mem_cons.mp h
    rw [itemTokens, List.cons_append, List.append_assoc]
    calc Expected.anyValue.ofTokens (.arr (last :: found) :: stack)
          (item.tokenList ++ (itemTokens items ++ rest))
      _ = (Expected.afterValue item).ofTokens (.arr (last :: found) :: stack)
          (itemTokens items ++ rest) := hitem _ _
      _ = (Expected.afterValue (.arr ((last :: found).reverse ++ item :: items))).ofTokens
          stack rest := ih hitems _ _
      _ = _ := by rw [List.reverse_cons, List.append_assoc]; rfl

theorem ofTokens_members {members : Members} (h : ∀ member ∈ members, member.2.Reads)
    (found : Members) (key : String) (value : Json)
    (hkeys : ((found ++ (key, value) :: members).map Prod.fst).Nodup) (stack : List Frame)
    (rest : List Token) :
    (Expected.afterValue value).ofTokens (.obj found key :: stack) (memberTokens members ++ rest) =
      (Expected.afterValue (.obj (found ++ (key, value) :: members))).ofTokens stack rest := by
  induction members generalizing found key value with
  | nil =>
    rw [← Members.insert_of_nodup hkeys]
    rfl
  | cons member members ih =>
    obtain ⟨next, inner⟩ := member
    obtain ⟨hinner, hmembers⟩ := List.forall_mem_cons.mp h
    -- No key comes twice, so a member that is read is put behind those found before.
    have hshift : found ++ (key, value) :: (next, inner) :: members =
        found.insert key value ++ (next, inner) :: members := by
      rw [Members.insert_of_nodup hkeys, List.append_assoc]
      rfl
    rw [memberTokens, List.cons_append, List.cons_append, List.cons_append, List.append_assoc]
    calc Expected.anyValue.ofTokens (.obj (found.insert key value) next :: stack)
          (inner.tokenList ++ (memberTokens members ++ rest))
      _ = (Expected.afterValue inner).ofTokens (.obj (found.insert key value) next :: stack)
          (memberTokens members ++ rest) := hinner _ _
      _ = (Expected.afterValue (.obj (found.insert key value ++ (next, inner) :: members))).ofTokens
          stack rest := ih hmembers _ _ _ (hshift ▸ hkeys)
      _ = _ := by rw [hshift]

theorem Writable.reads {value : Json} (h : value.Writable) : value.Reads := by
  induction h with
  | @arr items hitems ih =>
    intro stack rest
    cases items with
    | nil => rfl
    | cons item items =>
      obtain ⟨hitem, hitems⟩ := List.forall_mem_cons.mp ih
      rw [tokenList, List.cons_append, List.append_assoc]
      calc Expected.firstItem.ofTokens stack (item.tokenList ++ (itemTokens items ++ rest))
        _ = Expected.anyValue.ofTokens (.arr [] :: stack)
            (item.tokenList ++ (itemTokens items ++ rest)) := ofTokens_firstItem ..
        _ = (Expected.afterValue item).ofTokens (.arr [] :: stack) (itemTokens items ++ rest) :=
            hitem _ _
        _ = (Expected.afterValue (.arr (item :: items))).ofTokens stack rest :=
            ofTokens_items hitems [] item stack rest
  | @obj members hkeys hvalues ih =>
    intro stack rest
    cases members with
    | nil => rfl
    | cons member members =>
      obtain ⟨key, value⟩ := member
      obtain ⟨hvalue, hmembers⟩ := List.forall_mem_cons.mp ih
      rw [tokenList, List.cons_append, List.cons_append, List.cons_append, List.append_assoc]
      calc Expected.anyValue.ofTokens (.obj [] key :: stack)
            (value.tokenList ++ (memberTokens members ++ rest))
        _ = (Expected.afterValue value).ofTokens (.obj [] key :: stack)
            (memberTokens members ++ rest) := hvalue _ _
        _ = (Expected.afterValue (.obj ((key, value) :: members))).ofTokens stack rest :=
            ofTokens_members hmembers [] key value hkeys stack rest
  | _ => exact fun _ _ => rfl

/-! ## The whole way -/

theorem ofText_textAt {layout : JsonLayout} (hlayout : layout.AddsBlanks) {value : Json}
    (h : value.Writable) (level : Nat) : ofText? (value.textAt layout level) = some value := by
  have hread := h.reads [] []
  rw [List.append_nil] at hread
  rw [ofText?, tokens_textAt hlayout h]
  exact hread

theorem ofText_text {value : Json} (h : value.Writable) : ofText? value.text = some value :=
  ofText_textAt JsonLayout.inline_addsBlanks h 0

theorem ofText_spreadText {value : Json} (h : value.Writable) :
    ofText? value.spreadText = some value :=
  ofText_textAt JsonLayout.spread_addsBlanks h 0

end Json

end RecordTypes
