import RecordTypes.Proofs.Command.SavedDocument
import RecordTypes.Proofs.Command.Steps
import RecordTypes.Proofs.Console.Markup

/-! The files that a plan is for. One that is to fail has none, and one that is to succeed has those
that its command stands for. -/

namespace RecordTypes

/-! ## What commands stand for -/

/-- The files of a command that does what it is asked: the declarations generated from the metadata,
the metadata itself, or the two reports. -/
inductive Command.Yields (environment : Environment) (replies : List Reply) :
    Command → List Output → Prop
  | generate {command : GenerateCommand} {metadata : Metadata} {text : String}
      (hload : (loadMetadata environment replies command.source).result = .ok metadata)
      (htext : RecordTypes.generate metadata.base metadata.tables command.options = .ok text) :
    Yields environment replies (.generate command)
      [⟨command.output.getD (standardOutput metadata.base.name command.options.language), text⟩]
  | save {source : MetadataSource} {folder : Path} {raw : Json}
      (hfetch : (fetchRaw environment replies source).result = .ok raw) :
    Yields environment replies (.save source folder)
      [⟨folder.child "meta.json", documentText raw⟩]
  | report {source : MetadataSource} {folder : Path} {metadata : Metadata}
      (hload : (loadMetadata environment replies source).result = .ok metadata) :
    Yields environment replies (.report source folder)
      [⟨folder.child "tables.csv", tablesReport metadata.tables⟩,
       ⟨folder.child "fields.csv", fieldsReport metadata.tables⟩]

namespace Plan

end Plan

/-! ## Paths without brackets -/

def Output.IsPlain (output : Output) : Prop := '[' ∉ output.path.text.toList

end RecordTypes
