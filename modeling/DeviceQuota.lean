import DeviceQuota.Burst
import DeviceQuota.Concourse
import DeviceQuota.Host
import DeviceQuota.Main
import DeviceQuota.Proofs.Binding.Lifecycle
import DeviceQuota.Proofs.Burst.OneOutcome
import DeviceQuota.Proofs.Concourse.AnyVendor
import DeviceQuota.Proofs.Concourse.Missing
import DeviceQuota.Proofs.Device.Capacity
import DeviceQuota.Proofs.Exchange.Agreement
import DeviceQuota.Proofs.Exchange.StrictBound
import DeviceQuota.Proofs.Fraction.Rounding
import DeviceQuota.Proofs.Gate.Errands
import DeviceQuota.Proofs.Hook.Call
import DeviceQuota.Proofs.Hook.Transparent
import DeviceQuota.Proofs.Rig.Filling
import DeviceQuota.Proofs.Rig.QuotaCycle
import DeviceQuota.Proofs.Rig.Reports
import DeviceQuota.Proofs.Runtimes.Balance
import DeviceQuota.Proofs.Script.Course
import DeviceQuota.Proofs.Script.FreeMemory
import DeviceQuota.Proofs.Script.Invisible
import DeviceQuota.Proofs.Script.Log
import DeviceQuota.Proofs.Script.Modes
import DeviceQuota.Proofs.Script.Peak
import DeviceQuota.Proofs.Script.StrictQuota
import DeviceQuota.Proofs.Settings.Fallbacks
import DeviceQuota.Proofs.Size.FractionalQuantities
import DeviceQuota.Proofs.Size.Quantities
import DeviceQuota.Proofs.Size.RoundTrip
import DeviceQuota.Proofs.Size.Spelling
import DeviceQuota.Proofs.Size.WholeQuantities
import DeviceQuota.Proofs.Table.FiniteMap
import DeviceQuota.Proofs.Traffic.Accounts
import DeviceQuota.Proofs.Traffic.Admission
import DeviceQuota.Proofs.Traffic.Overshoot
import DeviceQuota.Proofs.Traffic.Slots
import DeviceQuota.Script
