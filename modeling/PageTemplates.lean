import PageTemplates.Text.Blank
import PageTemplates.Text.Case
import PageTemplates.Text.Digit
import PageTemplates.Text.Find
import PageTemplates.Text.Printable
import PageTemplates.Text.Quoted
import PageTemplates.Charset.SingleByte
import PageTemplates.Charset.Utf16
import PageTemplates.Charset.Declared
import PageTemplates.Charset.Family
import PageTemplates.Markup.Entity
import PageTemplates.Markup.Escape
import PageTemplates.Markup.Reference
import PageTemplates.Script.Literal
import PageTemplates.Markup.Head
import PageTemplates.Markup.Printer
import PageTemplates.Markup.Build
import PageTemplates.Directive
import PageTemplates.Model.Locate
import PageTemplates.Compile.Literal
import PageTemplates.Compile.Split
import PageTemplates.Compile.Page
import PageTemplates.Model.Section
import PageTemplates.Cache.Recency
import PageTemplates.Disk.Store
import PageTemplates.Markup.Forest
import PageTemplates.Markup.Moving
import PageTemplates.Compile.Rework
import PageTemplates.Config.Settings
import PageTemplates.Build.File
import PageTemplates.Build.Folder
import PageTemplates.Cache.Filling
import PageTemplates.Serve.Server
import PageTemplates.CommandLine.Command
import PageTemplates.Main
import PageTemplates.Proofs.Cache.Files
import PageTemplates.Proofs.Cache.Loading
import PageTemplates.Proofs.Cache.Transparency
import PageTemplates.Proofs.Markup.Change
import PageTemplates.Proofs.Script.Names
import PageTemplates.Proofs.Script.Reader
import PageTemplates.Proofs.Script.Grammar
import PageTemplates.Proofs.Script.Reading
import PageTemplates.Proofs.Script.Unmark
import PageTemplates.Proofs.Compile.Grouping
import PageTemplates.Proofs.Compile.Outcome
import PageTemplates.Proofs.Compile.Calls
import PageTemplates.Proofs.Compile.WellFormed
import PageTemplates.Proofs.Compile.Functions
import PageTemplates.Proofs.Compile.Growth
import PageTemplates.Proofs.Compile.InPlace
import PageTemplates.Proofs.Text.Search
import PageTemplates.Proofs.Text.Ascii
import PageTemplates.Proofs.Model.Bounds
import PageTemplates.Proofs.Script.Unescape
import PageTemplates.Proofs.Compile.Plain
import PageTemplates.Proofs.Script.Undone
import PageTemplates.Proofs.Compile.RawText
import PageTemplates.Proofs.Script.EndTag
import PageTemplates.Proofs.Compile.Harmless
import PageTemplates.Proofs.Markup.Parsed
import PageTemplates.Proofs.Compile.Scripts
import PageTemplates.Proofs.Compile.Splitting
import PageTemplates.Proofs.Markup.Printed
import PageTemplates.Proofs.Markup.Decoded
import PageTemplates.Proofs.Markup.TagReread
import PageTemplates.Proofs.Markup.Reread
import PageTemplates.Proofs.Model.Words
import PageTemplates.Proofs.Model.Marked
import PageTemplates.Proofs.Model.Passed
import PageTemplates.Proofs.Model.Located
import PageTemplates.Proofs.Compile.Extracting
import PageTemplates.Proofs.Compile.Framed
import PageTemplates.Proofs.Compile.Separating
import PageTemplates.Proofs.Compile.Arranged
import PageTemplates.Proofs.Compile.Hoisting
import PageTemplates.Proofs.Compile.Gathered
import PageTemplates.Proofs.Compile.Lossless
import PageTemplates.Proofs.Markup.Building
import PageTemplates.Proofs.Disk.Removal
import PageTemplates.Proofs.Cache.Asking
import PageTemplates.Proofs.Cache.Orderly
import PageTemplates.Proofs.Cache.Leakage
import PageTemplates.Proofs.Cache.Bodies
import PageTemplates.Proofs.Text.Trim
import PageTemplates.Proofs.Markup.Faults
import PageTemplates.Proofs.Charset.Usable
import PageTemplates.Proofs.Compile.Compiled
import PageTemplates.Proofs.Compile.Refused
import PageTemplates.Proofs.Outcome
import PageTemplates.Proofs.Disk.Acting
import PageTemplates.Proofs.Disk.Names
import PageTemplates.Proofs.Disk.Tree
import PageTemplates.Proofs.Build.Templates
import PageTemplates.Proofs.Build.Compiling
import PageTemplates.Proofs.Text.Json
import PageTemplates.Proofs.Build.Recorded
import PageTemplates.Proofs.Build.Manifested
import PageTemplates.Proofs.Serve.Inside
import PageTemplates.Proofs.Serve.Shared
import PageTemplates.Proofs.Compile.Reached
import PageTemplates.Proofs.Compile.Followed
import PageTemplates.Proofs.Compile.Stepping
import PageTemplates.Proofs.Compile.Reporting
import PageTemplates.Proofs.Compile.HeadFunctions
import PageTemplates.Proofs.Compile.Collecting
import PageTemplates.Proofs.Compile.Choices
import PageTemplates.Proofs.Cache.Naming
import PageTemplates.Proofs.Cache.Supplied
import PageTemplates.Proofs.Charset.Utf8
import PageTemplates.Proofs.Compile.Solid
import PageTemplates.Proofs.Compile.Loading
import PageTemplates.Proofs.Serve.Routing
import PageTemplates.Proofs.Serve.Addresses
import PageTemplates.Proofs.Serve.Fetched
import PageTemplates.Proofs.Compile.HeadOrder
import PageTemplates.Proofs.Disk.Written
import PageTemplates.Proofs.Build.Linked
import PageTemplates.Proofs.Charset.Held
import PageTemplates.Proofs.Compile.Clean
import PageTemplates.Proofs.Compile.CleanPage
import PageTemplates.Proofs.Compile.Encoded
import PageTemplates.Proofs.Compile.FunctionNames
import PageTemplates.Proofs.Compile.References
import PageTemplates.Proofs.Compile.OwnScripts
import PageTemplates.Proofs.Compile.Emitted
import PageTemplates.Proofs.Cache.Recent
import PageTemplates.Proofs.Cache.Requested
import PageTemplates.Proofs.Markup.Linked
import PageTemplates.Proofs.Markup.Relinked
import PageTemplates.Proofs.Compile.Named
import PageTemplates.Proofs.Model.Merged
import PageTemplates.Proofs.Charset.Sniffed
import PageTemplates.Proofs.Markup.ReadBack
import PageTemplates.Proofs.Markup.Bracketed
import PageTemplates.Proofs.Script.Enclosed
import PageTemplates.Proofs.Markup.Walked
import PageTemplates.Proofs.Markup.Planted
import PageTemplates.Proofs.Markup.Moved
import PageTemplates.Proofs.Markup.Rearranged
import PageTemplates.Proofs.Markup.Places
import PageTemplates.Proofs.Markup.MovedTree
import PageTemplates.Proofs.Markup.Attached
import PageTemplates.Proofs.Markup.LinkedHead
import PageTemplates.Proofs.Compile.Targets
import PageTemplates.Proofs.Compile.NodeSteps
import PageTemplates.Proofs.Compile.LinkedGroups
import PageTemplates.Proofs.Compile.Reworked
