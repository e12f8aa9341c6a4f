import PrintDrop.Math.TransitionSystem
import PrintDrop.Math.BigEndian
import PrintDrop.Math.BlockFold
import PrintDrop.Math.Sha256
import PrintDrop.Wire.Bytes
import PrintDrop.Wire.Frame
import PrintDrop.Wire.Filename
import PrintDrop.Wire.DeviceName
import PrintDrop.Wire.FileBegin
import PrintDrop.Wire.Ack
import PrintDrop.Wire.Narrowing
import PrintDrop.Wire.WebProtocol
import PrintDrop.Wire.TwoCodecs
import PrintDrop.Receiver.FileReceive
import PrintDrop.Receiver.Transfer
import PrintDrop.Receiver.Protocol
import PrintDrop.Receiver.Discipline
import PrintDrop.Math.Journal
import PrintDrop.Math.SharedState
import PrintDrop.Math.Dialogue
import PrintDrop.Receiver.Recording
import PrintDrop.Receiver.Calls
import PrintDrop.Receiver.JobId
import PrintDrop.Receiver.Session
import PrintDrop.Receiver.Lifecycle
import PrintDrop.Receiver.RelayEndpoint
import PrintDrop.Receiver.RelayRegistration
import PrintDrop.Receiver.Handler
import PrintDrop.Receiver.FileSink
import PrintDrop.Receiver.SafeName
import PrintDrop.Receiver.Containment
import PrintDrop.Receiver.Atomicity
import PrintDrop.Receiver.CleanUp
import PrintDrop.Receiver.RelayClient
import PrintDrop.Receiver.Loop
import PrintDrop.Receiver.LoopRun
import PrintDrop.Receiver.Reported
import PrintDrop.Receiver.AckDiscipline
import PrintDrop.Receiver.EventStream
import PrintDrop.Receiver.Completion
import PrintDrop.Receiver.Reliable
import PrintDrop.Receiver.ErrorCause
import PrintDrop.Receiver.Credential
import PrintDrop.Receiver.DigestHex
import PrintDrop.Receiver.Decoders
import PrintDrop.Receiver.TransferProgress
import PrintDrop.Receiver.SizeAccounting
import PrintDrop.Receiver.ReceiveBounds
import PrintDrop.Receiver.Win32Sha256
import PrintDrop.Receiver.HashRelease
import PrintDrop.Sender.SendFile
import PrintDrop.Sender.Upload
import PrintDrop.Sender.Sha256
import PrintDrop.Sender.Compression
import PrintDrop.Sender.HashFile
import PrintDrop.Sender.SessionPage
import PrintDrop.Transfer.System
import PrintDrop.Transfer.Request
import PrintDrop.Transfer.Agreement
import PrintDrop.Transfer.UploadRecord
import PrintDrop.Transfer.StopAndWait
import PrintDrop.Transfer.Success
import PrintDrop.Transfer.SessionLink
import PrintDrop.Relay.Session
import PrintDrop.Relay.Peer
import PrintDrop.Relay.Server
import PrintDrop.Relay.Table
import PrintDrop.Relay.Effects
import PrintDrop.Relay.SessionTable
import PrintDrop.Relay.Slots
import PrintDrop.Relay.OneSender
import PrintDrop.Relay.LastWords
import PrintDrop.Relay.Forwarding
import PrintDrop.Relay.Pairing
import PrintDrop.Relay.Isolation
import PrintDrop.Relay.Drain
import PrintDrop.Relay.SenderWeb
import PrintDrop.Relay.Json
import PrintDrop.Relay.Front
import PrintDrop.Relay.FrontDoor
import PrintDrop.Relay.OwnSession
import PrintDrop.Transfer.Identifiers
import PrintDrop.Transfer.Relayed
import PrintDrop.Transfer.RelayedSuccess
import PrintDrop.Desktop.Session
import PrintDrop.Desktop.Worker
import PrintDrop.Desktop.App
import PrintDrop.Desktop.Steps
import PrintDrop.Desktop.Threads
import PrintDrop.Desktop.Display
import PrintDrop.Desktop.ShownCode
import PrintDrop.Desktop.Drawing
import PrintDrop.Transfer.Rendezvous
