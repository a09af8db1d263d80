import PvDisplayHelper.Wire.Bytes
import PvDisplayHelper.Wire.Interface
import PvDisplayHelper.Wire.Payloads
import PvDisplayHelper.Wire.Checksum
import PvDisplayHelper.Wire.CrcReference
import PvDisplayHelper.Wire.CrcErrors
import PvDisplayHelper.Ivc.Link
import PvDisplayHelper.Receiver.Decoder
import PvDisplayHelper.Receiver.Frames
import PvDisplayHelper.Receiver.Sync
import PvDisplayHelper.Receiver.RoundTrip
import PvDisplayHelper.Receiver.Validation
import PvDisplayHelper.Dispatch.Receipt
import PvDisplayHelper.Dispatch.Agreement
import PvDisplayHelper.DirtyRect.Ring
import PvDisplayHelper.Objects.Locking
import PvDisplayHelper.Objects.Fatal
import PvDisplayHelper.Objects.Servers
import PvDisplayHelper.Objects.Backend
import PvDisplayHelper.Provider.Display
import PvDisplayHelper.Provider.Cursor
import PvDisplayHelper.Provider.Operations
import PvDisplayHelper.Provider.Lifecycle
import PvDisplayHelper.Objects.ServerLifecycle
import PvDisplayHelper.Provider.EventChannel
