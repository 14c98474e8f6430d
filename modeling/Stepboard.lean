import Stepboard.Arguments
import Stepboard.Backend
import Stepboard.Command
import Stepboard.Key.Terminal
import Stepboard.Main
import Stepboard.Memory.ZeroRun
import Stepboard.Settings
import Stepboard.Simulator.Scripted
import Stepboard.Proofs.Related
import Stepboard.Proofs.Events
import Stepboard.Proofs.Snapshots
import Stepboard.Proofs.Recording
import Stepboard.Proofs.StepCount
import Stepboard.Proofs.Halts
import Stepboard.Proofs.CollapsedLines
import Stepboard.Proofs.DumpText
import Stepboard.Proofs.Lossless
import Stepboard.Proofs.FileRows
import Stepboard.Proofs.Appending
import Stepboard.Proofs.LogPanes
import Stepboard.Proofs.Tailing
import Stepboard.Proofs.Alike
import Stepboard.Proofs.Looking
import Stepboard.Proofs.Endings
import Stepboard.Proofs.TypedKeys
import Stepboard.Proofs.BoundKeys
import Stepboard.Proofs.ScreenTitles
import Stepboard.Proofs.Positions
import Stepboard.Proofs.SettingsErrors
import Stepboard.Proofs.ResolvedSettings
import Stepboard.Proofs.EmptyVariables
import Stepboard.Proofs.Tiling
import Stepboard.Proofs.GridRows
import Stepboard.Proofs.LayoutTree
import Stepboard.Proofs.BackEnds
import Stepboard.Proofs.Survival
import Stepboard.Proofs.TerminalMode
import Stepboard.Proofs.DumpShape
import Stepboard.Proofs.DumpColumns
import Stepboard.Proofs.Directories
import Stepboard.Proofs.Outcomes
import Stepboard.Proofs.DumpReads
import Stepboard.Proofs.Following
import Stepboard.Proofs.DrawnLines
import Stepboard.Proofs.CurrentLine
import Stepboard.Proofs.Windows
import Stepboard.Proofs.HighWater
import Stepboard.Proofs.BrokenKeys
import Stepboard.Proofs.HeadedDumps
import Stepboard.Proofs.TextLines
import Stepboard.Proofs.FaultBox
