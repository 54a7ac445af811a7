import FluxPurr.Memory.LegacyStreaming
import FluxPurr.Memory.PolicyReboot
import FluxPurr.Memory.DeferredCommit
import FluxPurr.Pd.ContractAgreement
import FluxPurr.Lan.Guarded
import FluxPurr.Power.Balance
import FluxPurr.Supply.ScanBoundary
import FluxPurr.Usb.ResponseChannel
import FluxPurr.Usb.PersistenceLog
import FluxPurr.Usb.LineInput
import FluxPurr.Usb.MutationReplay
import FluxPurr.Lan.ControlRevision
import FluxPurr.Devd.SingleShot
import FluxPurr.Devd.FirmwareRuns
import FluxPurr.Devd.LanRegistry
import FluxPurr.Devd.EventStream
import FluxPurr.Heater.RtdRecovery
import FluxPurr.Pd.Fusb302bPoll
import FluxPurr.Pd.RuntimeDeadlines
import FluxPurr.Pd.ContractWithdrawal
import FluxPurr.Pd.SnapshotFreshness
import FluxPurr.Pd.PermitRuns
import FluxPurr.Calibration.RefusedConfig
import FluxPurr.Heater.AutomaticCandidate
import FluxPurr.Heater.GrantedRequest
import FluxPurr.Thermal.SafetyEnvelope
import FluxPurr.Buzzer.PlaybackRuns
import FluxPurr.Buzzer.FaultAttention
import FluxPurr.Fan.PostHeat
import FluxPurr.FrontPanel.PreviewAgreement
import FluxPurr.FrontPanel.AcknowledgedPress
import FluxPurr.Lan.HostTraffic
import FluxPurr.Wifi.Provisioning
import FluxPurr.WebSerial.OrderlyRuns
import FluxPurr.Devd.Mock.Reconciliation
import FluxPurr.Devd.ResponseFraming
import FluxPurr.Pd.SelectorGuarantees
import FluxPurr.Pd.PpsContinuity
import FluxPurr.Pd.RefusedRequest
import FluxPurr.Lan.PairingMirror
import FluxPurr.Lan.LightRequest
import FluxPurr.Thermal.QualificationPause
import FluxPurr.Supply.LookupBounds
import FluxPurr.Supply.EndlessProbing
import FluxPurr.Heater.PowerConversion
import FluxPurr.Heater.FixedFallback
import FluxPurr.Heater.TerminalDisarmRuns
import FluxPurr.Thermal.Tuning.DeadlineExtension
import FluxPurr.Thermal.TraceRuns
import FluxPurr.Supply.EquilibriumRuns
import FluxPurr.Calibration.SourceLimits
import FluxPurr.Thermal.AppliedHeat
import FluxPurr.Heater.HoldGovernor
import FluxPurr.Heater.RtdSlewLaw
