import Fancon.Concurrency.ConfigEdits
import Fancon.Concurrency.ConfigLock
import Fancon.Concurrency.ConfigSaves
import Fancon.Concurrency.EnableLocks
import Fancon.Concurrency.ObserverLock
import Fancon.Concurrency.TaskLock
import Fancon.Concurrency.TestStatus
import Fancon.Controller.Calibrations
import Fancon.Controller.Coarse
import Fancon.Controller.Commands
import Fancon.Controller.DellReload
import Fancon.Controller.DevicePointers
import Fancon.Controller.DisableLasts
import Fancon.Controller.Faults
import Fancon.Controller.HandBack
import Fancon.Controller.Losses
import Fancon.Controller.ManualControl
import Fancon.Controller.Merge
import Fancon.Controller.MergeTasks
import Fancon.Controller.PostfixNum
import Fancon.Controller.ReloadAgain
import Fancon.Controller.Restart
import Fancon.Controller.Restored
import Fancon.Controller.Shutdown
import Fancon.Controller.Updates
import Fancon.Device.GpuName
import Fancon.Device.LoadSave
import Fancon.Device.SaveLoad
import Fancon.Fan.Calibration
import Fancon.Fan.ClosestPwm
import Fancon.Fan.ControlLoop
import Fancon.Fan.Curve
import Fancon.Fan.CurveScan
import Fancon.Fan.DellMethod
import Fancon.Fan.Evidence
import Fancon.Fan.FailedTest
import Fancon.Fan.Interpolation
import Fancon.Fan.NvidiaMapping
import Fancon.Fan.Percent
import Fancon.Fan.SearchRanges
import Fancon.Fan.SmoothingIntervals
import Fancon.Fan.SmoothingRuns
import Fancon.Fan.StartTest
import Fancon.Sensor.AverageBounds
import Fancon.Sensor.FailedReads
import Fancon.Sensor.Freshness
import Fancon.Sensor.Readings
import Fancon.Service.ArgumentTokens
import Fancon.Service.ArgumentValues
import Fancon.Service.Board
import Fancon.Service.ClientStatus
import Fancon.Service.ClientTests
import Fancon.Service.ControllerConfig
import Fancon.Service.Coolbits
import Fancon.Service.DeviceUpdates
import Fancon.Service.StatusUpdates
