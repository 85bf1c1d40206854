import QueryBinding.Proofs.Json.Codec
import QueryBinding.Request.Json

/-! # The codecs of a request

What holds of each codec that a request is made of: members are told apart by their names, and
nothing is read where a fault stands. -/

namespace QueryBinding

open Codec Member

theorem TableName.names_distinct : (TableName.shape.members.map (·.name)).Nodup := by decide

theorem Settings.names_distinct : (Settings.shape.members.map (·.name)).Nodup := by decide

theorem EmbedSpec.names_distinct {φ : Type} (field : Codec φ) :
    ((EmbedSpec.shape field).members.map (·.name)).Nodup := by
  change ["fields", "nullable", "primary_keys"].Nodup
  decide

theorem FieldSpec.names_distinct (embed : Codec (EmbedSpec FieldSpec)) :
    ((FieldSpec.shapeWith embed).members.map (·.name)).Nodup := by
  change ["name", "db_name", "type", "original_name", "is_sqlc_slice", "embed"].Nodup
  decide

theorem QuerySpec.names_distinct : (QuerySpec.shape.members.map (·.name)).Nodup := by decide

theorem Request.names_distinct : (Request.shape.members.map (·.name)).Nodup := by decide

theorem Codec.strict_beyond {α : Type} : (beyond : Codec α).Strict := by
  intro r v read
  cases read

theorem TableName.strict : TableName.shape.codec.Strict :=
  Shape.strict (by simp [TableName.shape, strict_of, strict_optional, strict_text])

theorem Settings.strict : Settings.shape.codec.Strict :=
  Shape.strict (by
    simp [Settings.shape, Package.codec, Driver.codec, strict_of, strict_optional, strict_choice,
      strict_flag, strict_size])

theorem EmbedSpec.strict {φ : Type} {field : Codec φ} (h : field.Strict) :
    (EmbedSpec.shape field).codec.Strict :=
  Shape.strict (by simp [EmbedSpec.shape, strict_of, strict_list, strict_flag, strict_text, h])

theorem FieldSpec.strict_shapeWith {embed : Codec (EmbedSpec FieldSpec)} (h : embed.Strict) :
    (FieldSpec.shapeWith embed).codec.Strict :=
  Shape.strict (by
    simp [FieldSpec.shapeWith, strict_of, strict_optional, strict_flag, strict_text, h])

theorem FieldSpec.strict (depth : Nat) : (codecTo depth).Strict := by
  induction depth with
  | zero => exact strict_shapeWith strict_beyond
  | succ depth ih => exact strict_shapeWith (EmbedSpec.strict ih)

theorem QuerySpec.strict : QuerySpec.shape.codec.Strict :=
  Shape.strict (by
    simp [QuerySpec.shape, FieldSpec.codec, strict_of, strict_optional, strict_list, strict_text,
      TableName.strict, FieldSpec.strict])

theorem Request.strict : Request.shape.codec.Strict :=
  Shape.strict (by
    simp [Request.shape, strict_of, strict_list, Settings.strict, QuerySpec.strict])

end QueryBinding
