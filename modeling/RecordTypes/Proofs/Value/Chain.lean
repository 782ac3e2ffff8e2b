import RecordTypes.Value.Field

/-! Formulas and rollups in a chain, each the result of the one before it. A chain holds what its
last result holds, however long it is. A lookup that is given a chain looks past its first link
only, so that another link behind it is taken for text. -/

namespace RecordTypes

/-- A formula or rollup apart from its result. -/
structure Link where
  heading : Heading
  type : ComputedType
  isSingle : type.isSingle = true := by rfl

/-- A computed field with the result that was reported for it, if one was. -/
def Field.computing (heading : Heading) (type : ComputedType) : Option Field → Field
  | some result => .computed heading type result
  | none => .plain heading (.unresolved type)

def Link.around (link : Link) (result? : Option Field) : Field :=
  .computing link.heading link.type result?

/-- A result with links around it, the first link outermost. -/
def chained (links : List Link) (result? : Option Field) : Option Field :=
  links.foldr (fun link inner? => some (link.around inner?)) result?

/-- Whether a field holds just what its own result does. -/
def Field.isLink (field : Field) : Bool :=
  match field.type with
  | .computed type => type.isSingle
  | _ => false

theorem chained_cons (first : Link) (rest : List Link) (result? : Option Field) :
    chained (first :: rest) result? = some (first.around (chained rest result?)) := rfl

/-! ## What a chain holds -/

theorem Link.valueType_around (link : Link) (result? : Option Field) :
    (link.around result?).valueType = (result?.map Field.valueType).getD (.one .text) := by
  obtain ⟨heading, type, hsingle⟩ := link
  cases type with
  | lookup => cases hsingle
  | formula | rollup => cases result? <;> rfl

theorem Link.choiceNames_around (link : Link) (result? : Option Field) :
    (link.around result?).choiceNames = [] := by
  cases result? <;> rfl

theorem valueType_chained (first : Link) (rest : List Link) (result? : Option Field) :
    (first.around (chained rest result?)).valueType =
      (result?.map Field.valueType).getD (.one .text) := by
  induction rest generalizing first with
  | nil => exact first.valueType_around result?
  | cons next rest ih =>
    have hnext := ih next
    rw [chained_cons, Link.valueType_around, Option.map_some, Option.getD_some, hnext]

/-! ## What a lookup makes of a chain -/

theorem Field.valueType_lookup (heading : Heading) (hint? : Option Field) :
    (Field.computing heading .lookup hint?).valueType = (hint?.map Field.gathered).getD .mixed := by
  cases hint? <;> rfl

theorem Field.element_lookup (heading : Heading) (hint? : Option Field) :
    (Field.computing heading .lookup hint?).element =
      (Field.computing heading .lookup hint?).valueType.element := by
  cases hint? <;> rfl

theorem Field.gathered_plain {heading : Heading} {shape : Shape}
    (h : (Field.plain heading shape).isLink = false) :
    (Field.plain heading shape).gathered = shape.valueType.gathered := by
  cases shape with
  | unresolved type =>
    cases type with
    | lookup => rfl
    | formula | rollup => cases h
  | _ => rfl

theorem Link.gathered_around_none (link : Link) : (link.around none).gathered = .mixed := by
  obtain ⟨heading, type, hsingle⟩ := link
  cases type with
  | lookup => cases hsingle
  | formula | rollup => rfl

/-- One link is passed over: what comes after it is judged as if it were the hint itself. -/
theorem Link.gathered_around_some (link : Link) {result : Field} (h : result.isLink = false) :
    (link.around (some result)).gathered = result.gathered := by
  obtain ⟨heading, type, hsingle⟩ := link
  cases type with
  | lookup => cases hsingle
  | formula | rollup =>
    cases result with
    | plain heading shape =>
      rw [Field.gathered_plain h]
      rfl
    | computed heading type inner =>
      cases type with
      | lookup => rfl
      | formula | rollup => cases h

theorem Link.gathered_around_around (first next : Link) (result? : Option Field) :
    (first.around (some (next.around result?))).gathered = .many .text := by
  obtain ⟨heading, type, hsingle⟩ := first
  obtain ⟨heading', type', hsingle'⟩ := next
  cases type with
  | lookup => cases hsingle
  | formula | rollup =>
    cases type' with
    | lookup => cases hsingle'
    | formula | rollup => cases result? <;> rfl

theorem valueType_lookup_single (heading : Heading) (link : Link) {result? : Option Field}
    (h : ∀ result ∈ result?, result.isLink = false) :
    (Field.computing heading .lookup (chained [link] result?)).valueType =
      (Field.computing heading .lookup result?).valueType := by
  rw [Field.valueType_lookup, Field.valueType_lookup, chained_cons, Option.map_some,
    Option.getD_some]
  cases result? with
  | none => exact link.gathered_around_none
  | some result => exact link.gathered_around_some (h result rfl)

theorem valueType_lookup_chained (heading : Heading) (first next : Link) (rest : List Link)
    (result? : Option Field) :
    (Field.computing heading .lookup (chained (first :: next :: rest) result?)).valueType =
      .many .text := by
  rw [Field.valueType_lookup, chained_cons, chained_cons, Option.map_some, Option.getD_some]
  exact first.gathered_around_around next _

theorem ValueType.gathered_cases (v : ValueType) :
    v.gathered = .many .text ∨ (∃ n, v.gathered = .many (.number n)) ∨
      v.gathered = .many .boolean ∨ v.gathered = .many .attachment := by
  cases v with
  | one s => cases s <;> simp [gathered]
  | many s => cases s <;> simp [gathered]
  | mixed => simp [gathered]

theorem Field.gathered_cases (field : Field) :
    field.gathered = .mixed ∨ ∃ v : ValueType, field.gathered = v.gathered := by
  unfold Field.gathered
  split
  · exact Or.inl rfl
  · exact Or.inl rfl
  · exact Or.inr ⟨_, rfl⟩
  · exact Or.inr ⟨.one .text, rfl⟩
  · exact Or.inr ⟨_, rfl⟩
  · exact Or.inr ⟨.one .text, rfl⟩

theorem Field.valueType_lookup_cases (heading : Heading) (hint? : Option Field) :
    (Field.computing heading .lookup hint?).valueType = .mixed ∨
      ∃ v : ValueType, (Field.computing heading .lookup hint?).valueType = v.gathered := by
  rw [Field.valueType_lookup]
  cases hint? with
  | none => exact Or.inl rfl
  | some hint => exact hint.gathered_cases

end RecordTypes
