import ZipArchive.Charset.Index.Basic
import ZipArchive.Charset.Index.Jis0208
import ZipArchive.Charset.Index.Jis0212
import ZipArchive.Charset.Index.EucKr
import ZipArchive.Charset.Index.Big5
import ZipArchive.Charset.Index.Gb18030
import ZipArchive.Charset.Index.GbRanges

/-!
# The indexes in use

One index for each set of rows, with the restrictions on writing that the charsets make: Shift_JIS
does not write the rows 89 to 92 of one vendor, and Big5 leaves the rows of the Hong Kong
supplementary set below `A1` to reading.
-/

namespace ZipArchive.Charset.Index

/-- JIS X 0208 as EUC-JP and ISO-2022-JP write it. -/
def jis0208 : Index := ofRows jis0208Rows

/-- JIS X 0208 as Shift_JIS writes it. -/
def shiftJis : Index := ofRows jis0208Rows fun p => p < 8272 || 8835 < p

/-- JIS X 0212, which is only read. -/
def jis0212 : Index := ofRows jis0212Rows

/-- EUC-KR. -/
def eucKr : Index := ofRows eucKrRows

/-- Big5. Six characters are written with their last pointer. -/
def big5 : Index :=
  ofRows big5Rows (fun p => 5024 ≤ p) fun c => "═╞╡╪十卅".contains c

/-- The two-byte characters of GB 18030. -/
def gb18030 : Index := ofRows gb18030Rows

end ZipArchive.Charset.Index
