import GripperDriver.Framework.Program
import GripperDriver.Framework.Parts
import GripperDriver.Framework.Refinement
import GripperDriver.Framework.Checked
import GripperDriver.Framework.System
import GripperDriver.Framework.History
import GripperDriver.Framework.Stutter
import GripperDriver.Framework.Pacing
import GripperDriver.Framework.Monitor
import GripperDriver.Framework.Tally
import GripperDriver.Framework.Evaluation
import GripperDriver.Framework.Rounding
import GripperDriver.Framework.Fields
import GripperDriver.Framework.Ledger
import GripperDriver.Framework.ShiftRegister
import GripperDriver.Device.Blocks
import GripperDriver.Device.RegisterModel
import GripperDriver.Device.Accesses
import GripperDriver.Device.Openings
import GripperDriver.Device.Texts
import GripperDriver.Exchange.ProcessImage
import GripperDriver.Exchange.Waiters
import GripperDriver.Exchange.World
import GripperDriver.Exchange.Chronicle
import GripperDriver.Exchange.LinkState
import GripperDriver.Exchange.Quiet
import GripperDriver.Exchange.Evolution
import GripperDriver.Exchange.Redelivery
import GripperDriver.Exchange.Connection
import GripperDriver.Exchange.Throttle
import GripperDriver.Exchange.Pacing
import GripperDriver.Client.Waits
import GripperDriver.Exchange.Shutdown
import GripperDriver.Client.Evaluations
import GripperDriver.Client.Records
import GripperDriver.Client.Recorder
import GripperDriver.Client.Delivery
import GripperDriver.Client.Activation
import GripperDriver.Client.Handshake
import GripperDriver.Client.Motion
import GripperDriver.Client.Deadlines
import GripperDriver.Client.CommandImage
import GripperDriver.Client.Disturbance
import GripperDriver.Client.Moves
import GripperDriver.Modbus.Nanomodbus
import GripperDriver.Modbus.Transactions
import GripperDriver.Modbus.ByteLink
import GripperDriver.Modbus.Supply
import GripperDriver.Modbus.Acceptance
import GripperDriver.Modbus.Checksum
import GripperDriver.Modbus.Server
import GripperDriver.Modbus.Requests
import GripperDriver.Modbus.Stream
import GripperDriver.Modbus.Noise
import GripperDriver.Modbus.FakeStack
import GripperDriver.Modbus.FakeDriver
import GripperDriver.Platform.SerialPort
import GripperDriver.Platform.SerialWrite
import GripperDriver.Platform.DefaultSerial
import GripperDriver.Platform.PosixPort
import GripperDriver.Platform.CommPort
import GripperDriver.Platform.Connections
import GripperDriver.Platform.CommTimeouts
import GripperDriver.Platform.StdConditionVariable
import GripperDriver.Platform.ThreadXConditionVariable
import GripperDriver.Platform.ThreadXTicks
import GripperDriver.Platform.Sleeps
import GripperDriver.Modbus.ReadTimeouts
