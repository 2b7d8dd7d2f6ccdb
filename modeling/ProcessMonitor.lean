import ProcessMonitor.Comm.Arguments
import ProcessMonitor.Comm.Capacity
import ProcessMonitor.Comm.Client
import ProcessMonitor.Comm.CommandLine
import ProcessMonitor.Comm.ListBuffer
import ProcessMonitor.Comm.Listen
import ProcessMonitor.Comm.Observation
import ProcessMonitor.Comm.Shutdown
import ProcessMonitor.Comm.Sockets
import ProcessMonitor.Comm.Tokens
import ProcessMonitor.Integration.Bounds
import ProcessMonitor.Integration.Cleanup
import ProcessMonitor.Integration.ClientHandler
import ProcessMonitor.Integration.Connections
import ProcessMonitor.Integration.CpuUsage
import ProcessMonitor.Integration.DefaultMutex
import ProcessMonitor.Integration.ErrorBudget
import ProcessMonitor.Integration.EscapeBuffer
import ProcessMonitor.Integration.Fifo
import ProcessMonitor.Integration.FifoCalls
import ProcessMonitor.Integration.Figures
import ProcessMonitor.Integration.Instances
import ProcessMonitor.Integration.Intervals
import ProcessMonitor.Integration.KernelData
import ProcessMonitor.Integration.KernelSwitch
import ProcessMonitor.Integration.LockDiscipline
import ProcessMonitor.Integration.LogFile
import ProcessMonitor.Integration.LoggerMutex
import ProcessMonitor.Integration.OtherRooms
import ProcessMonitor.Integration.Reply
import ProcessMonitor.Integration.RoomCount
import ProcessMonitor.Integration.Rotation
import ProcessMonitor.Integration.Sequential
import ProcessMonitor.Integration.StructuredLog
import ProcessMonitor.Integration.SystemFiles
import ProcessMonitor.Kernel.ProcFiles
import ProcessMonitor.LocGen.CommandLine
import ProcessMonitor.LocGen.DataCollector
import ProcessMonitor.LocGen.ExitStatus
import ProcessMonitor.LocGen.Handles
