import TagSpec.Main
import TagSpec.Proofs.StringLiteral
import TagSpec.Proofs.Files.Walking
import TagSpec.Proofs.Files.Paths
import TagSpec.Proofs.Files.Changing
import TagSpec.Proofs.Package.Sources
import TagSpec.Proofs.Output
import TagSpec.Proofs.Package.Skipping
import TagSpec.Proofs.Package.Structs
import TagSpec.Proofs.Package.Naming
import TagSpec.Proofs.Generation
import TagSpec.Proofs.CommandLine
import TagSpec.Proofs.Source.Reading
import TagSpec.Proofs.Source.Refusing
import TagSpec.Proofs.Source.Lexing
import TagSpec.Proofs.Source.Structs
import TagSpec.Proofs.Source.Literals
import TagSpec.Proofs.Spec.Parsing
import TagSpec.Proofs.Spec.Checking
import TagSpec.Proofs.Source.Lines
import TagSpec.Proofs.Spec.Layout
import TagSpec.Proofs.Spec.Readable
import TagSpec.Proofs.Text.Determining
import TagSpec.Proofs.Spec.Lossless
import TagSpec.Proofs.Spec.Compilable
import TagSpec.Proofs.Tags.Enclosing
import TagSpec.Proofs.Tags.Values
import TagSpec.Proofs.Tags.Grammar
import TagSpec.Proofs.Tags.Printing
import TagSpec.Proofs.Source.Printing
import TagSpec.Proofs.Writing
import TagSpec.Proofs.Package.Variables
import TagSpec.Proofs.Stages
import TagSpec.Proofs.Names
import TagSpec.Proofs.Package.Unconsidered
import TagSpec.Proofs.Regex.Literals
import TagSpec.Proofs.PlainNames
import TagSpec.Proofs.Settings.Validation
import TagSpec.Proofs.CommandLine.Validity
import TagSpec.Proofs.Settings.Overlay
import TagSpec.Proofs.Settings.Keys
import TagSpec.Proofs.CommandLine.Assignments
import TagSpec.Proofs.CommandLine.Priority
import TagSpec.Proofs.Spec.Grouping
import TagSpec.Proofs.StringLiteral.Grammar
import TagSpec.Proofs.Text.Lossy
import TagSpec.Proofs.Tags.Separators
import TagSpec.Proofs.Source.Scanning
import TagSpec.Proofs.Source.Numbers
import TagSpec.Proofs.Source.Inserting
import TagSpec.Proofs.Source.Noticing
import TagSpec.Proofs.Source.Nodes
import TagSpec.Proofs.Source.Comments
import TagSpec.Proofs.Source.Headers
import TagSpec.Proofs.Source.Shapes
import TagSpec.Proofs.Source.Standing
import TagSpec.Proofs.Source.Declared
import TagSpec.Proofs.Source.Finding
import TagSpec.Proofs.Source.Located
import TagSpec.Proofs.Source.Fields
import TagSpec.Proofs.Source.BadTags
import TagSpec.Proofs.Outcomes
import TagSpec.Proofs.Spec.Faults
import TagSpec.Proofs.Selection
import TagSpec.Proofs.Logging
import TagSpec.Proofs.Text.Positions
import TagSpec.Proofs.StringLiteral.Checked
import TagSpec.Proofs.Tags.Closing
import TagSpec.Proofs.Tags.Checked
