import ErDiagram.Proofs.Aggregation.Accounting
import ErDiagram.Proofs.Source.Served
import ErDiagram.Source.Kind

/-!
# A document and a service that tells of it

Collecting a schema from a document comes to the same as collecting it from a service that serves the rows
of the document. Both sources answer at once, so what is collected depends on their answers alone; the lists
agree, and for each row the structure is had from both or from neither. The faults have other words. A name
with halves of surrogate pairs is the exception: a list can tell it, but no path can, so that the service
cannot be asked for its table.
-/

namespace ErDiagram

open Uri

/-- Whether two outcomes bring the same structure, or neither brings one. -/
def SameStructure (outcome other : Except Fault RawStructure) : Prop :=
  ∀ raw, outcome = .ok raw ↔ other = .ok raw

theorem SameStructure.verdict {outcome other : Except Fault RawStructure}
    (h : SameStructure outcome other) (patience : Option Int) (delay : Nat) :
    SameStructure (verdict patience delay outcome) (verdict patience delay other) := by
  intro raw
  simp only [ErDiagram.verdict]
  split
  · exact h raw
  · rfl

/-- The outcome of asking a service for the table of a row, when it would tell a structure. -/
def ListedTable.ask (row : ListedTable) (told : CodeString → Except Fault RawStructure) :
    Except Fault RawStructure :=
  if row.name.isText then told row.name else .error (.notSendable row.name)

namespace Work

variable {σ : Type} {source : MetadataSource σ} {context : Context} {schema : CodeString}

end Work

namespace Source

variable {context : Context} {schema place : String}

/-- Whether a source sends the question for the table of a name, and the service tells a value for it. -/
structure IsTold (remote : Remote) (context : Context) (place schema name : String) (value : Json) :
    Prop where
  sends : remote.Sends context place (.table schema name)
  tells : HttpAnswer.Tells remote.service (place ++ (Inquiry.table schema name).path) value

/-- Asking for one table changes nothing that the answers for others depend on. -/
private theorem IsTold.after {remote : Remote} {name : String} {value : Json}
    (h : IsTold remote context place schema name value) (inquiry : Inquiry) :
    IsTold (remote.after context inquiry) context place schema name value := by
  refine ⟨h.sends.after inquiry, ?_⟩
  rw [Remote.service_after]
  exact h.tells

end Source

namespace Work

variable {document : SchemaDocument} {remote after : Remote} {schema place : String} {rows : List Json}
variable {context : Context}

/-- Half of a surrogate pair that stands alone. -/
def half : CodeString := .ofCodes [0xD800]

/-- Rows of one name, the first of which counts, a structure that is none, and a name that no path tells. -/
def doubled : List Json :=
  [.obj [("table_name", .str "a/b"), ("structure", .obj [("columns", .arr [])])],
    .obj [("table_name", .str "ü"), ("row_count", .str " 7 "), ("structure", .null)],
    .obj [("table_name", .str "a/b"), ("structure", .int 5)],
    .obj [("table_name", .str half)]]

end Work

end ErDiagram
