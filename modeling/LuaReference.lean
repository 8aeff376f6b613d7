import LuaReference.Comment.Block
import LuaReference.Comment.Directive
import LuaReference.Comment.Heading
import LuaReference.Coverage
import LuaReference.Entry.Basic
import LuaReference.Entry.ExampleLabel
import LuaReference.Entry.Keyword
import LuaReference.Entry.ParameterLine
import LuaReference.Entry.Reader
import LuaReference.Files.Disk
import LuaReference.Files.Path
import LuaReference.Files.Pattern
import LuaReference.Files.Tree
import LuaReference.Main
import LuaReference.Mode
import LuaReference.Page.Basic
import LuaReference.Page.Placement
import LuaReference.Page.Write
import LuaReference.Proofs.Comment.Grammar
import LuaReference.Proofs.Comment.Kind
import LuaReference.Proofs.Comment.LineEnd
import LuaReference.Proofs.Comment.LineNumber
import LuaReference.Proofs.Comment.Mention
import LuaReference.Proofs.Comment.Outside
import LuaReference.Proofs.Comment.Overview
import LuaReference.Proofs.Coverage
import LuaReference.Proofs.Entry.ExampleSection
import LuaReference.Proofs.Entry.Merge
import LuaReference.Proofs.Entry.ParameterSection
import LuaReference.Proofs.Entry.ParameterShape
import LuaReference.Proofs.Entry.Print
import LuaReference.Proofs.Entry.ReadBack
import LuaReference.Proofs.Entry.WellFormed
import LuaReference.Proofs.Files.Agree
import LuaReference.Proofs.Files.Carving
import LuaReference.Proofs.Files.Component
import LuaReference.Proofs.Files.Growth
import LuaReference.Proofs.Files.Lineage
import LuaReference.Proofs.Files.Order
import LuaReference.Proofs.Files.Parents
import LuaReference.Proofs.Files.Plain
import LuaReference.Proofs.Files.View
import LuaReference.Proofs.Files.Walk
import LuaReference.Proofs.Page.History
import LuaReference.Proofs.Page.Independent
import LuaReference.Proofs.Page.Placement
import LuaReference.Proofs.Page.Survival
import LuaReference.Proofs.Page.Write
import LuaReference.Proofs.Run.Commute
import LuaReference.Proofs.Run.Documented
import LuaReference.Proofs.Run.Inputs
import LuaReference.Proofs.Run.Isolation
import LuaReference.Proofs.Run.LineEnd
import LuaReference.Proofs.Run.Rerun
import LuaReference.Proofs.Site.Association
import LuaReference.Proofs.Site.Declaration
import LuaReference.Proofs.Site.FollowingCode
import LuaReference.Proofs.Site.Heading
import LuaReference.Proofs.Site.HookUse
import LuaReference.Proofs.Site.LineEnd
import LuaReference.Proofs.Style.Anchor
import LuaReference.Proofs.Style.Code
import LuaReference.Proofs.Style.Fence
import LuaReference.Proofs.Style.Table
import LuaReference.Proofs.Text.Blank
import LuaReference.Proofs.Text.ByteOrder
import LuaReference.Proofs.Text.Case
import LuaReference.Proofs.Text.Ends
import LuaReference.Proofs.Text.Indent
import LuaReference.Proofs.Text.LineEnd
import LuaReference.Proofs.Text.Lines
import LuaReference.Proofs.Text.Mark
import LuaReference.Proofs.Text.Pieces
import LuaReference.Proofs.Text.Position
import LuaReference.Proofs.Text.Scan
import LuaReference.Proofs.Types.Link
import LuaReference.Proofs.Types.Returns
import LuaReference.Proofs.Types.Union
import LuaReference.Run.Batch
import LuaReference.Run.Generator
import LuaReference.Run.Inputs
import LuaReference.Run.Log
import LuaReference.Run.Options
import LuaReference.Run.Program
import LuaReference.Settings.Basic
import LuaReference.Settings.Load
import LuaReference.Settings.Quoted
import LuaReference.Settings.Stamp
import LuaReference.Site.Basic
import LuaReference.Site.Declaration
import LuaReference.Site.Definition
import LuaReference.Site.HookUse
import LuaReference.Style.Anchor
import LuaReference.Style.Details
import LuaReference.Style.Fragment
import LuaReference.Style.Label
import LuaReference.Style.Markdown
import LuaReference.Text.Basic
import LuaReference.Text.Blank
import LuaReference.Text.Bytes
import LuaReference.Text.Case
import LuaReference.Text.Case.Context
import LuaReference.Text.Case.Lower
import LuaReference.Text.Case.Run
import LuaReference.Text.Case.Upper
import LuaReference.Text.CodeRange
import LuaReference.Text.Indent
import LuaReference.Text.Letter
import LuaReference.Text.NameSet
import LuaReference.Text.Position
import LuaReference.Text.Scan
import LuaReference.Text.Word
import LuaReference.Types.Link
import LuaReference.Types.Returns
import LuaReference.Types.Union
