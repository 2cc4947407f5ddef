import JavaSketch.Command.Git
import JavaSketch.Command.Releases
import JavaSketch.Edition.Draft
import JavaSketch.Main
import JavaSketch.Problem
import JavaSketch.Proofs.Guards
import JavaSketch.Proofs.BodyStep
import JavaSketch.Proofs.Blocks
import JavaSketch.Proofs.Braces
import JavaSketch.Proofs.StatementPieces
import JavaSketch.Proofs.Chains
import JavaSketch.Proofs.Consumption
import JavaSketch.Proofs.Progress
import JavaSketch.Proofs.Declarations
import JavaSketch.Proofs.Members
import JavaSketch.Proofs.Layouts
import JavaSketch.Proofs.MemberPieces
import JavaSketch.Proofs.LayoutBraces
import JavaSketch.Proofs.Position
import JavaSketch.Proofs.Locality
import JavaSketch.Proofs.Margins
import JavaSketch.Proofs.Headings
import JavaSketch.Proofs.Signatures
import JavaSketch.Proofs.Sections
import JavaSketch.Proofs.Literals
import JavaSketch.Proofs.CommentMarks
import JavaSketch.Proofs.TrailingComments
import JavaSketch.Proofs.BlockComments
import JavaSketch.Proofs.LeadingComments
import JavaSketch.Proofs.Additions
import JavaSketch.Proofs.Openings
import JavaSketch.Proofs.Creations
import JavaSketch.Proofs.MainMethods
import JavaSketch.Proofs.Parts
import JavaSketch.Proofs.Joining
import JavaSketch.Proofs.TypedStatements
import JavaSketch.Proofs.Breakdowns
import JavaSketch.Proofs.FileTrees
import JavaSketch.Proofs.ProgramNames
import JavaSketch.Proofs.WrittenFiles
import JavaSketch.Proofs.LineBreaks
import JavaSketch.Proofs.PublicClasses
import JavaSketch.Proofs.OpenAccessors
import JavaSketch.Proofs.MainBodies
import JavaSketch.Proofs.FreeMethods
import JavaSketch.Proofs.TemplateWords
import JavaSketch.Proofs.Commands
import JavaSketch.Proofs.Drafts
import JavaSketch.Proofs.Indentations
import JavaSketch.Proofs.Interpolation
import JavaSketch.Proofs.Phrases
import JavaSketch.Proofs.Constructors
import JavaSketch.Proofs.CollectionWords
import JavaSketch.Proofs.Matching
import JavaSketch.Proofs.Recognition
import JavaSketch.Proofs.SpokenOperations
import JavaSketch.Proofs.SpokenWords
import JavaSketch.Proofs.StringLiterals
import JavaSketch.Proofs.FormatStrings
import JavaSketch.Proofs.FieldTypes
import JavaSketch.Proofs.SpokenReceivers
import JavaSketch.Proofs.WordGaps
import JavaSketch.Proofs.ConditionLines
import JavaSketch.Proofs.LogicalWords
import JavaSketch.Proofs.OperandPhrases
import JavaSketch.Proofs.Assignments
import JavaSketch.Proofs.SecondWords
import JavaSketch.Proofs.ValuedDeclarations
import JavaSketch.Proofs.DeclarationForms
import JavaSketch.Proofs.SignatureLines
import JavaSketch.Proofs.RangeLoops
import JavaSketch.Proofs.LineEnds
import JavaSketch.Proofs.ClassHeaders
import JavaSketch.Proofs.AccessorNames
import JavaSketch.Proofs.SectionOrder
import JavaSketch.Proofs.PrintedStatements
import JavaSketch.Proofs.FileWrites
