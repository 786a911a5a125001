import TileScript.Bridge.Act
import TileScript.Bridge.Api
import TileScript.Bridge.ApiCall
import TileScript.Bridge.Arguments
import TileScript.Bridge.Check
import TileScript.Bridge.Error
import TileScript.Bridge.Native
import TileScript.Bridge.NativeCall
import TileScript.Bridge.Object
import TileScript.Bridge.Registry
import TileScript.Bridge.Run
import TileScript.Bridge.Scene
import TileScript.Bridge.Schema
import TileScript.Bridge.Snapshot
import TileScript.Bridge.Stack
import TileScript.Bridge.Value
import TileScript.CommandLine
import TileScript.Engine.Basic
import TileScript.Engine.Command
import TileScript.Engine.Install
import TileScript.Engine.World
import TileScript.Main
import TileScript.Manager.Change
import TileScript.Manager.Chord
import TileScript.Manager.Command
import TileScript.Manager.Config
import TileScript.Manager.Dynamic
import TileScript.Manager.Gap
import TileScript.Manager.Host
import TileScript.Manager.Layout
import TileScript.Manager.Mode
import TileScript.Manager.Monitor
import TileScript.Manager.Window
import TileScript.Number.Arithmetic
import TileScript.Number.Digits
import TileScript.Number.Double
import TileScript.Number.Numeral
import TileScript.Number.Power
import TileScript.Number.Unsigned
import TileScript.Pattern.Basic
import TileScript.Pattern.Fault
import TileScript.Pattern.Nesting
import TileScript.Pattern.Reader
import TileScript.Pattern.Search
import TileScript.Pattern.Size
import TileScript.Proofs.AppliedBindings
import TileScript.Proofs.AtomicCalls
import TileScript.Proofs.CallProtocol
import TileScript.Proofs.CallbackAnswers
import TileScript.Proofs.ChangedParts
import TileScript.Proofs.CheckedArguments
import TileScript.Proofs.ChordNotation
import TileScript.Proofs.Chords
import TileScript.Proofs.Conformance
import TileScript.Proofs.ContextIsolation
import TileScript.Proofs.Crossings
import TileScript.Proofs.CurrentHandles
import TileScript.Proofs.DigitPatterns
import TileScript.Proofs.Dispatch
import TileScript.Proofs.ErrorPrefixes
import TileScript.Proofs.Execution
import TileScript.Proofs.Fallbacks
import TileScript.Proofs.FieldAccess
import TileScript.Proofs.FieldDiagnoses
import TileScript.Proofs.FirstFailure
import TileScript.Proofs.FreshStart
import TileScript.Proofs.GapPositions
import TileScript.Proofs.GivenHandles
import TileScript.Proofs.GreedyArguments
import TileScript.Proofs.Growth
import TileScript.Proofs.HandedValues
import TileScript.Proofs.HandleLifetime
import TileScript.Proofs.HandleUse
import TileScript.Proofs.HostCopies
import TileScript.Proofs.Installation
import TileScript.Proofs.KeyNames
import TileScript.Proofs.KeymapCalls
import TileScript.Proofs.KeymapCourses
import TileScript.Proofs.KeymapSessions
import TileScript.Proofs.Keymaps
import TileScript.Proofs.MonitorOrder
import TileScript.Proofs.MonitorTexts
import TileScript.Proofs.NativeEffects
import TileScript.Proofs.NearestDoubles
import TileScript.Proofs.NewTables
import TileScript.Proofs.Orders
import TileScript.Proofs.PaddedNumbers
import TileScript.Proofs.PassageActs
import TileScript.Proofs.PassageTasks
import TileScript.Proofs.Passages
import TileScript.Proofs.PlainTables
import TileScript.Proofs.QuotedWords
import TileScript.Proofs.ReachedScenes
import TileScript.Proofs.ReadingOrder
import TileScript.Proofs.RefusedPlaces
import TileScript.Proofs.Registrations
import TileScript.Proofs.Renaming
import TileScript.Proofs.Retention
import TileScript.Proofs.ScalarStack
import TileScript.Proofs.ScriptQueries
import TileScript.Proofs.Sessions
import TileScript.Proofs.SoundHandles
import TileScript.Proofs.StackActs
import TileScript.Proofs.StackDiscipline
import TileScript.Proofs.StackLogic
import TileScript.Proofs.StackRuns
import TileScript.Proofs.StackTasks
import TileScript.Proofs.StoredHandles
import TileScript.Proofs.Undisturbed
import TileScript.Proofs.Unprotected
import TileScript.Proofs.UsageErrors
import TileScript.Proofs.WholeNumbers
import TileScript.Proofs.WindowOptions
import TileScript.Proofs.WindowRules
import TileScript.Proofs.WordSeparation
import TileScript.Proofs.Worlds
import TileScript.Rehearsal
import TileScript.Script.Access
import TileScript.Script.Arrangement
import TileScript.Script.Builtin
import TileScript.Script.Calculation
import TileScript.Script.Combination
import TileScript.Script.Counting
import TileScript.Script.Draft
import TileScript.Script.Fields
import TileScript.Script.Frame
import TileScript.Script.Heap
import TileScript.Script.Instruction
import TileScript.Script.Library
import TileScript.Script.Machine
import TileScript.Script.Naming
import TileScript.Script.Operand
import TileScript.Script.Program
import TileScript.Script.Raw
import TileScript.Script.Reader
import TileScript.Script.Scope
import TileScript.Script.Token
import TileScript.Text.ByteSequence
import TileScript.Text.Fold
import TileScript.Text.Range
import TileScript.Text.Utf8
import TileScript.Text.Word
