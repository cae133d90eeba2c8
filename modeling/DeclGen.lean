import DeclGen.Main
import DeclGen.Manifest.Edit
import DeclGen.Proofs.Comment.Delimiter
import DeclGen.Proofs.Declaration.Brackets
import DeclGen.Proofs.Declaration.Calls
import DeclGen.Proofs.Manifest.Edit
import DeclGen.Proofs.Manifest.Image
import DeclGen.Proofs.Manifest.Influence
import DeclGen.Proofs.Manifest.Positions
import DeclGen.Proofs.Manifest.Segments
import DeclGen.Proofs.Shell.Run
import DeclGen.Schema.Kind
import DeclGen.Proofs.KeyOrder
import DeclGen.Proofs.Schema.KeyOrder
import DeclGen.Proofs.Toml.Soundness
import DeclGen.Proofs.Manifest.Spelling
import DeclGen.Proofs.Schema.Agreement
import DeclGen.Proofs.Comment.ReadBack
import DeclGen.Proofs.Declaration.Alias
import DeclGen.Proofs.Declaration.Kinds
import DeclGen.Proofs.Manifest.EmptyText
import DeclGen.Proofs.Comment.Layout
import DeclGen.Proofs.Comment.Terminator
import DeclGen.Proofs.Comment.LineEnd
import DeclGen.Proofs.Declaration.Transformer
import DeclGen.Proofs.Manifest.Offender
import DeclGen.Proofs.Manifest.Rows
import DeclGen.Proofs.Manifest.ExtraKeys
import DeclGen.Proofs.Manifest.Anonymous
import DeclGen.Proofs.Manifest.Events
import DeclGen.Proofs.Shell.Check
