import ZipArchive.Text.Hex
import ZipArchive.Fault
import ZipArchive.Bytes.Basic
import ZipArchive.Bytes.Position
import ZipArchive.Bytes.LittleEndian
import ZipArchive.Bytes.Signed
import ZipArchive.Bytes.Buffer
import ZipArchive.Crc32
import ZipArchive.Flags
import ZipArchive.Method
import ZipArchive.Compressor
import ZipArchive.Sink.Basic
import ZipArchive.Sink.Memory
import ZipArchive.Sink.File
import ZipArchive.Sink.Seekable
import ZipArchive.Calendar
import ZipArchive.Charset.Index.Basic
import ZipArchive.Charset.Index.Jis0208
import ZipArchive.Charset.Index.Jis0212
import ZipArchive.Charset.Index.EucKr
import ZipArchive.Charset.Index.Big5
import ZipArchive.Charset.Index.Gb18030
import ZipArchive.Charset.Index.GbRanges
import ZipArchive.Charset.Index
import ZipArchive.Charset.Reading
import ZipArchive.Charset.Utf8
import ZipArchive.Charset.CodePage
import ZipArchive.Charset.Japanese
import ZipArchive.Charset.Iso2022Jp
import ZipArchive.Charset.EastAsian
import ZipArchive.Charset.Basic
import ZipArchive.Charset.Labels
import ZipArchive.Text.Printable
import ZipArchive.Text.Escape
import ZipArchive.TextEncoding
import ZipArchive.Extra.Record
import ZipArchive.Extra.Zip64
import ZipArchive.Extra.Timestamp
import ZipArchive.Extra.Ownership
import ZipArchive.Extra.UnicodeText
import ZipArchive.Extra.Alignment
import ZipArchive.Extra.JarMarker
import ZipArchive.Extra.Opaque
import ZipArchive.Extra.Field
import ZipArchive.Extra.Registry
import ZipArchive.Extra.Stream
import ZipArchive.Extra.FieldList
import ZipArchive.Entry
import ZipArchive.Names
import ZipArchive.Payload
import ZipArchive.Archive.Limits
import ZipArchive.Archive.LocalHeader
import ZipArchive.Archive.Digest
import ZipArchive.Archive.Compression
import ZipArchive.Archive.CentralHeader
import ZipArchive.Archive.EndRecord
import ZipArchive.Archive.Submission
import ZipArchive.Archive.Writer
import ZipArchive.Sink.Continued
import ZipArchive.Proofs.LittleEndian
import ZipArchive.Proofs.Overwrite
import ZipArchive.Proofs.FixedWidth
import ZipArchive.Proofs.Sink.Calls
import ZipArchive.Proofs.Sink.Mirror
import ZipArchive.Proofs.Archive.Turns
import ZipArchive.Proofs.Except
import ZipArchive.Proofs.Extra.Merge
import ZipArchive.Proofs.Extra.FieldList
import ZipArchive.Proofs.Archive.FilledHeader
import ZipArchive.Proofs.Archive.Layout
import ZipArchive.Proofs.Archive.Blocks
import ZipArchive.Proofs.Archive.HeaderFields
import ZipArchive.Proofs.Archive.Reading
import ZipArchive.Proofs.Names
import ZipArchive.Proofs.Archive.Prepare
import ZipArchive.Proofs.Archive.ReadBack
import ZipArchive.Proofs.Archive.Scan
import ZipArchive.Proofs.Text.Escape
import ZipArchive.Proofs.Charset.Reads
import ZipArchive.Proofs.Charset.Stateless
import ZipArchive.Proofs.Charset.Iso2022Jp
import ZipArchive.Proofs.Charset.Utf8
import ZipArchive.Proofs.TextEncoding
import ZipArchive.Proofs.Extra.Cursor
import ZipArchive.Proofs.Extra.Alignment
import ZipArchive.Proofs.Extra.Ownership
import ZipArchive.Proofs.Extra.Reachable
import ZipArchive.Proofs.Extra.OwnerIds
import ZipArchive.Proofs.Extra.Zip64
import ZipArchive.Proofs.Extra.Replay
import ZipArchive.Proofs.Extra.Payloads
import ZipArchive.Proofs.Extra.Records
import ZipArchive.Proofs.Extra.Rewriting
import ZipArchive.Proofs.HeaderText
import ZipArchive.Proofs.CrashingText
import ZipArchive.Proofs.Archive.BreakingOff
import ZipArchive.Proofs.Extra.CentralCopies
import ZipArchive.Proofs.Extra.MergeCentral
import ZipArchive.Proofs.Archive.Recorder
import ZipArchive.Proofs.Archive.Patching
import ZipArchive.Proofs.Extra.MergeDistinct
import ZipArchive.Proofs.Extra.Crossing
import ZipArchive.Proofs.Extra.OrderedMap
import ZipArchive.Proofs.StaleText
import ZipArchive.Proofs.Archive.Zip64Records
import ZipArchive.Proofs.Extra.Grammar
import ZipArchive.Proofs.Extra.Remainder
import ZipArchive.Proofs.Archive.Chunking
import ZipArchive.Proofs.Archive.Feeding
import ZipArchive.Proofs.Extra.Reparsing
import ZipArchive.Proofs.Extra.Refusals
import ZipArchive.Proofs.Extra.Kinds
import ZipArchive.Proofs.Extra.RefusedMerge
import ZipArchive.Proofs.Extra.Locality
import ZipArchive.Proofs.Sink.FixedSize
import ZipArchive.Proofs.Sink.FailedAppend
import ZipArchive.Proofs.Calendar
import ZipArchive.Proofs.DosTime
import ZipArchive.Proofs.UnmappableText
import ZipArchive.Proofs.TextFrame
import ZipArchive.Proofs.Text.Unescape
import ZipArchive.Proofs.Charset.Malformed
import ZipArchive.Proofs.Decoding
