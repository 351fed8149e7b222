import BlitzLens.Data.Checked
import BlitzLens.Stub.Basic

/-!
# Stubs as data

The form in which stubs are handed to and taken from other programs.
-/

namespace BlitzLens.Exchange

/-- A stub. -/
def ofStub (stub : Stub) : Value :=
  .record [
    ("name", .text stub.name),
    ("declaration", .text stub.declaration),
    ("param_docs", .ofTexts stub.paramDocs),
    ("description", .ofTexts stub.description),
    ("example", .text stub.sample),
    ("source", .ofText? stub.source)]

/-- Reads a stub; unknown fields are ignored. -/
def readStub : Reader Stub :=
  Reader.record fun value =>
    (fun name declaration docs description sample source =>
        ⟨name, declaration, docs, description, sample, source⟩)
      <$> Reader.required "name" Reader.text value
      <*> Reader.required "declaration" Reader.text value
      <*> Reader.withDefault "param_docs" (Reader.tuple Reader.text) [] value
      <*> Reader.withDefault "description" (Reader.tuple Reader.text) [] value
      <*> Reader.withDefault "example" Reader.text [] value
      <*> Reader.withDefault "source" (Reader.optional Reader.text) none value

end BlitzLens.Exchange
