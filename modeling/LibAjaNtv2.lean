import LibAjaNtv2.Anc.PacketHeader
import LibAjaNtv2.Anc.FieldRoundTrip
import LibAjaNtv2.Anc.VancLine
import LibAjaNtv2.Anc.TimecodeAtc
import LibAjaNtv2.Anc.TimecodeTime
import LibAjaNtv2.Anc.TimecodeWords
import LibAjaNtv2.AutoCirc.AudioCursor
import LibAjaNtv2.AutoCirc.Capture
import LibAjaNtv2.AutoCirc.Dispatch
import LibAjaNtv2.AutoCirc.Flush
import LibAjaNtv2.AutoCirc.FrameStamp
import LibAjaNtv2.AutoCirc.InitRange
import LibAjaNtv2.AutoCirc.Playout
import LibAjaNtv2.AutoCirc.RepeatCount
import LibAjaNtv2.AutoCirc.Single
import LibAjaNtv2.AutoCirc.Sync
import LibAjaNtv2.AutoCirc.TransferRange
import LibAjaNtv2.Buffer.Find
import LibAjaNtv2.Buffer.RingChange
import LibAjaNtv2.Buffer.Segments
import LibAjaNtv2.CircularBuffer.Abort
import LibAjaNtv2.CircularBuffer.Interleaving
import LibAjaNtv2.Anc.VitcRoundTrip
import LibAjaNtv2.CommandLine.Spellings
import LibAjaNtv2.Common.Split
import LibAjaNtv2.Common.Strip
import LibAjaNtv2.Debug.Stats
import LibAjaNtv2.Debug.MessageReader
import LibAjaNtv2.Dma.AudioCover
import LibAjaNtv2.Dma.PageTransfer
import LibAjaNtv2.Dma.EngineSharing
import LibAjaNtv2.Dma.VideoCover
import LibAjaNtv2.Dma.AjaProgram
import LibAjaNtv2.Firmware.BitfileParse
import LibAjaNtv2.Dma.AudioAdmission
import LibAjaNtv2.Dma.XlnxProgram
import LibAjaNtv2.Lib.Rect
import LibAjaNtv2.Pixels.Argb
import LibAjaNtv2.Pixels.DpxCopies
import LibAjaNtv2.Pixels.V210
import LibAjaNtv2.Pixels.YCbCrLine
import LibAjaNtv2.Raster.CentreCopy
import LibAjaNtv2.Raster.CopyRaster
import LibAjaNtv2.Raster.CopyRasterEdges
import LibAjaNtv2.Raster.FlipChroma
import LibAjaNtv2.Raster.PlaneOffsets
import LibAjaNtv2.Raster.Quadrants
import LibAjaNtv2.Router.RoundTrip
import LibAjaNtv2.Router.TextRoundTrip
import LibAjaNtv2.Router.Trace
import LibAjaNtv2.Rpc.Bitstream
import LibAjaNtv2.Rpc.QueryString
import LibAjaNtv2.Rpc.Registers
import LibAjaNtv2.Rpc.Safety
import LibAjaNtv2.Stream.Chain
import LibAjaNtv2.Stream.Fifo
import LibAjaNtv2.Timecode.Cleanup
import LibAjaNtv2.Timecode.Convert
import LibAjaNtv2.Timecode.FrameArithmetic
import LibAjaNtv2.Lib.Hops
import LibAjaNtv2.DisplayId.Collection
import LibAjaNtv2.DisplayId.Accepts
import LibAjaNtv2.Lib.Checked
import LibAjaNtv2.Raster.LineOffsets
import LibAjaNtv2.Anc.Smpte334
import LibAjaNtv2.Anc.Auxiliary
import LibAjaNtv2.Anc.GumpStrip
import LibAjaNtv2.Dma.PageLock
import LibAjaNtv2.Anc.VancUnpack
