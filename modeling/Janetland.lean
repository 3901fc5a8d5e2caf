import Janetland.Values
import Janetland.Foundations.Directives
import Janetland.Foundations.Marking
import Janetland.Foundations.Runs
import Janetland.Foundations.SentinelScan
import Janetland.AbstractTypes
import Janetland.CObjects
import Janetland.KeyDefs
import Janetland.OffsetTables
import Janetland.GetMethods
import Janetland.ScanBounds
import Janetland.NullTotality
import Janetland.DataPointers
import Janetland.PutMethods
import Janetland.DataSlots
import Janetland.Actions
import Janetland.Foundations.Ledger
import Janetland.Registrations
import Janetland.RegistrationEffects
import Janetland.RootBalance
import Janetland.Liveness
import Janetland.Foundations.Suspensions
import Janetland.GcLocks
import Janetland.Signals
import Janetland.Foundations.ThreeWay
import Janetland.Identity
import Janetland.TypeNames
import Janetland.Logging
import Janetland.FlagCodec
import Janetland.EnumDecoders
import Janetland.Foundations.Narrowing
import Janetland.LibraryCalls
import Janetland.EventForwarding
import Janetland.IntegerArguments
import Janetland.Foundations.Registers
import Janetland.PutEffects
import Janetland.StreamDispatch
import Janetland.Foundations.Forest
import Janetland.Tinyjl.State
import Janetland.Tinyjl.Handlers
import Janetland.Tinyjl.Events
import Janetland.Tinyjl.Frames
import Janetland.Tinyjl.Mapping
import Janetland.Tinyjl.Scenery
import Janetland.Tinyjl.SceneSteps
import Janetland.Tinyjl.SceneTrees
import Janetland.Tinyjl.ViewList
import Janetland.Tinyjl.Grabs
import Janetland.Tinyjl.Toggles
import Janetland.Foundations.Rings
import Janetland.WlLists
import Janetland.ListMembers
import Janetland.SurfaceStates
import Janetland.CursorImages
import Janetland.BoxConstructor
import Janetland.RuleNames
import Janetland.Foundations.Rounding
import Janetland.KeyboardEnter
import Janetland.LogBuffers
import Janetland.AddressPrinting
import Janetland.Tinyjl.Resizing
import Janetland.Tinyjl.FocusCycling
import Janetland.Foundations.Rosters
import Janetland.Outcomes
import Janetland.Tinyjl.Hotplug
import Janetland.Tinyjl.HotplugSteps
import Janetland.Tinyjl.HotplugRuns
import Janetland.Tinyjl.Keys
import Janetland.Tinyjl.KeyRuns
import Janetland.Tinyjl.ServerRun
import Janetland.Simulations
import Janetland.Tinyjl.Listeners
import Janetland.Tinyjl.ListenerSteps
import Janetland.Tinyjl.ListenerRuns
import Janetland.Foundations.Arrangements
import Janetland.Tinyjl.Stage
import Janetland.Tinyjl.StageSteps
import Janetland.Tinyjl.Stacking
import Janetland.Tinyjl.StackingRuns
import Janetland.Tinyjl.Placing
import Janetland.Tinyjl.PlacingRuns
import Janetland.Tinyjl.Activations
import Janetland.Tinyjl.ActivationRuns
import Janetland.Foundations.Strokes
import Janetland.Tinyjl.Grips
import Janetland.Tinyjl.Pointers
import Janetland.Tinyjl.PointerSteps
import Janetland.Tinyjl.PointerRuns
import Janetland.Foundations.Overrides
import Janetland.Foundations.Peg
import Janetland.Keysyms.Numerals
import Janetland.Keysyms.Reader
import Janetland.Keysyms.DefineLines
import Janetland.Keysyms.Table
