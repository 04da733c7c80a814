import ControlFan.Lib.Machine
import ControlFan.Lib.CString
import ControlFan.Lib.CBuffer
import ControlFan.Lib.Slots
import ControlFan.Lib.Queue
import ControlFan.Lib.Records
import ControlFan.Lib.Heap
import ControlFan.Lib.Recency
import ControlFan.Esp
import ControlFan.Log.Cache
import ControlFan.Log.Levels
import ControlFan.Log.Recency
import ControlFan.Mqtt.Message
import ControlFan.Mqtt.Client
import ControlFan.Mqtt.Downlink
import ControlFan.Mqtt.Encode
import ControlFan.Mqtt.Outbox
import ControlFan.Mqtt.Session
import ControlFan.Mqtt.Ledger
import ControlFan.Mqtt.Delivery
import ControlFan.Mqtt.Packets
import ControlFan.Mqtt.Wire
import ControlFan.Mqtt.Resend
import ControlFan.Wifi.Connect
import ControlFan.Wifi.Provision
import ControlFan.Wifi.Credentials
import ControlFan.Ota.Session
import ControlFan.Ota.Drive
import ControlFan.Ota.Outcome
import ControlFan.Ota.Handles
import ControlFan.Ota.Progress
import ControlFan.Ota.Termination
import ControlFan.Ota.Check
import ControlFan.Ota.Image
import ControlFan.Ota.Boot
import ControlFan.Ota.Rollback
import ControlFan.Ota.Device
import ControlFan.Ota.Updates
import ControlFan.Web.Handler
import ControlFan.Web.Contained
import ControlFan.Input.Buttons
import ControlFan.Blynk.Client
import ControlFan.Blynk.Framing
import ControlFan.Blynk.Codec
import ControlFan.Blynk.Args
import ControlFan.Blynk.Splitting
import ControlFan.Blynk.Awaiting
import ControlFan.Blynk.Handlers
import ControlFan.Blynk.Task
import ControlFan.Blynk.Effects
import ControlFan.Blynk.Control
import ControlFan.Blynk.Dispatch
import ControlFan.Blynk.Phase
import ControlFan.Blynk.Transmit
import ControlFan.Blynk.Correlation
import ControlFan.Blynk.States
import ControlFan.Blynk.Login
import ControlFan.Blynk.Server
import ControlFan.Blynk.Lifecycle
import ControlFan.Blynk.Reports
import ControlFan.Blynk.Timers
import ControlFan.Blynk.Sending
