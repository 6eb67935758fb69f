import PctlManager.Logic.Stateful
import PctlManager.Logic.Runs
import PctlManager.Logic.Sentinel
import PctlManager.Logic.Scan
import PctlManager.Logic.Relational
import PctlManager.Logic.Region
import PctlManager.Logic.Output
import PctlManager.Logic.Zoom
import PctlManager.Logic.Format
import PctlManager.Spec.Registers
import PctlManager.Spec.Timer
import PctlManager.Printf
import PctlManager.Settings
import PctlManager.Service
import PctlManager.Ops
import PctlManager.PlayTimer
import PctlManager.Report
import PctlManager.Numpad
import PctlManager.Lifecycle
import PctlManager.Clock
import PctlManager.Views
import PctlManager.Flow
import PctlManager.PerDay
import PctlManager.PlayTimerActivity
import PctlManager.PinGate
import PctlManager.Ui
import PctlManager.MainActivity
import PctlManager.MainLoop
import PctlManager.Verif.Effects
import PctlManager.Verif.Operations
import PctlManager.Verif.Documented
import PctlManager.Verif.Setters
import PctlManager.Verif.RoundTrip
import PctlManager.Verif.Bedtime
import PctlManager.Verif.ReadBack
import PctlManager.Verif.Flow
import PctlManager.Verif.Promises
import PctlManager.Verif.GuardedSetter
import PctlManager.Verif.Healthy
import PctlManager.Verif.PerDay
import PctlManager.Verif.Hhmm
import PctlManager.Verif.PlayTimerActivity
import PctlManager.Verif.BedtimeEditor
import PctlManager.Verif.Dump
import PctlManager.Verif.Report
import PctlManager.Verif.Printf
import PctlManager.Verif.DumpText
import PctlManager.Verif.Labels
import PctlManager.Verif.Disclosure
import PctlManager.Verif.Session
import PctlManager.Verif.PinGate
import PctlManager.Verif.PinHandBack
import PctlManager.Verif.Ui
import PctlManager.Verif.MainLoop
import PctlManager.Verif.SessionRuns
import PctlManager.Verif.GateRuns
import PctlManager.Verif.Confirmations
import PctlManager.Verif.Asked
import PctlManager.Verif.SettingsRuns
import PctlManager.Verif.ConsoleRuns
import PctlManager.Verif.HealthyRuns
import PctlManager.Verif.LogFile
import PctlManager.Verif.Leaving
import PctlManager.Verif.Secrecy
import PctlManager.Verif.SecrecyRuns
