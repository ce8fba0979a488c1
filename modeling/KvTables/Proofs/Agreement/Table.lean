import KvTables.Proofs.Agreement.Records
import KvTables.Table.Args

/-! Arguments of tables are read alike from values that show the same. -/

set_option autoImplicit false

namespace KvTables

variable {ν μ : Type} [Source ν] [Source μ] {Shows : ν → Json → Prop} {Shown : μ → Json → Prop}
  (faithful : Faithful Shows) (other : Faithful Shown)

include faithful other

theorem DType.agree : Agree Shows Shown True DType.read DType.read := .bare faithful other _

namespace DefaultValue

theorem agree : Agree Shows Shown True read read := by
  have concrete : Agree Shows Shown True readConcrete readConcrete := by
    intro first second alike
    have value := (Agree.value faithful other.toShowing).map DefaultValue.concrete alike
    simp only [map_eq_pure_bind, bind_assoc, pure_bind] at value
    exact value
  have symbolic : Agree Shows Shown True readSymbolic readSymbolic :=
    (Agree.text faithful other.toShowing _).map DefaultValue.symbolic
  exact .withPayload faithful other (.cons ⟨rfl, concrete⟩ (.cons ⟨rfl, symbolic⟩ .nil))

end DefaultValue

namespace TableArgs

theorem agree_field (field : Field) : Agree Shows Shown True (readField field) (readField field) := by
  have showing := other.toShowing
  cases field with
  | keyDType | valueDType => exact DType.agree faithful other
  | defaultValue => exact .optional faithful showing (DefaultValue.agree faithful other)
  | name => exact .optional faithful showing (.text faithful showing _)
  | checkpoint => exact .optional faithful showing (.flag faithful showing)
  | initSize => exact .optional faithful showing (.count faithful showing)

theorem agree : Agree Shows Shown True read read :=
  (Shape.agree_quietly (.whole faithful other) (agree_field faithful other)).map fun slots =>
    TableArgs.mk (slots .keyDType) (slots .valueDType) (slots .defaultValue) (slots .name)
      (slots .checkpoint) (slots .initSize)

end TableArgs

end KvTables
