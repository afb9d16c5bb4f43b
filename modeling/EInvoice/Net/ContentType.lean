import EInvoice.Text.Utf8

/-!
# Content types detected from a body

A server that answers with a body but names no content type has one detected from the first
512 bytes of the body, by the signatures of the MIME sniffing standard, tried in order:

* markup: after leading blanks, an HTML tag name (in any letter case) followed by a blank or
  `>`, or the start of an XML declaration;
* documents, byte order marks, images, audio and video, fonts and archives by their leading
  bytes, some of which may hold anything at given positions;
* text, when no byte is a control character other than a blank, escape or form feed;
* anything else is `application/octet-stream`.
-/

namespace EInvoice.Net

open EInvoice.Text

/-- A signature: a byte that must be there, or any byte. -/
abbrev Pattern := List (Option UInt8)

/-- The bytes of an ASCII text as a pattern of exact bytes. -/
def exact (s : String) : Pattern := (encode s).map some

/-- Any `n` bytes. -/
def anyBytes (n : Nat) : Pattern := List.replicate n none

/-- Whether data starts with a pattern. -/
def startsWith : Pattern → List UInt8 → Bool
  | [], _ => true
  | _ :: _, [] => false
  | p :: ps, b :: bs => (p.all (· = b)) && startsWith ps bs

/-- The blanks skipped before markup. -/
def isSniffBlank (b : UInt8) : Bool := b = 9 || b = 10 || b = 12 || b = 13 || b = 32

/-- The tag names that mark HTML. -/
def htmlTags : List String :=
  ["<!DOCTYPE HTML", "<HTML", "<HEAD", "<SCRIPT", "<IFRAME", "<H1", "<DIV", "<FONT", "<TABLE", "<A",
   "<STYLE", "<TITLE", "<B", "<BODY", "<BR", "<P", "<!--"]

/-- Whether data starts with a tag name, letters in any case, followed by a blank or `>`. -/
def startsWithTag (tag : List UInt8) (data : List UInt8) : Bool :=
  data.length > tag.length &&
  (tag.zip data).all (fun (t, d) => if 65 ≤ t && t ≤ 90 then (d &&& 0xDF) = t else d = t) &&
  (data.getD tag.length 0 = 32 || data.getD tag.length 0 = 62)

/-- The signatures matched at the very start, with their content types, in order. -/
def binarySignatures : List (Pattern × String) :=
  [(exact "%PDF-", "application/pdf"),
   (exact "%!PS-Adobe-", "application/postscript"),
   ([some 0xFE, some 0xFF], "text/plain; charset=utf-16be"),
   ([some 0xFF, some 0xFE], "text/plain; charset=utf-16le"),
   ([some 0xEF, some 0xBB, some 0xBF], "text/plain; charset=utf-8"),
   ([some 0, some 0, some 1, some 0], "image/x-icon"),
   ([some 0, some 0, some 2, some 0], "image/x-icon"),
   (exact "BM", "image/bmp"),
   (exact "GIF87a", "image/gif"),
   (exact "GIF89a", "image/gif"),
   (exact "RIFF" ++ anyBytes 4 ++ exact "WEBPVP", "image/webp"),
   ([some 0x89] ++ exact "PNG" ++ [some 13, some 10, some 26, some 10], "image/png"),
   ([some 0xFF, some 0xD8, some 0xFF], "image/jpeg"),
   (exact "FORM" ++ anyBytes 4 ++ exact "AIFF", "audio/aiff"),
   (exact "ID3", "audio/mpeg"),
   (exact "OggS" ++ [some 0], "application/ogg"),
   (exact "MThd" ++ [some 0, some 0, some 0, some 6], "audio/midi"),
   (exact "RIFF" ++ anyBytes 4 ++ exact "AVI ", "video/avi"),
   (exact "RIFF" ++ anyBytes 4 ++ exact "WAVE", "audio/wave"),
   ([some 0x1A, some 0x45, some 0xDF, some 0xA3], "video/webm"),
   ([some 0, some 1, some 0, some 0], "font/ttf"),
   (exact "OTTO", "font/otf"),
   (exact "ttcf", "font/collection"),
   (exact "wOFF", "font/woff"),
   (exact "wOF2", "font/woff2"),
   ([some 0x1F, some 0x8B, some 8], "application/x-gzip"),
   (exact "PK" ++ [some 3, some 4], "application/zip"),
   (exact "Rar!" ++ [some 0x1A, some 7, some 0], "application/x-rar-compressed"),
   (exact "Rar!" ++ [some 0x1A, some 7, some 1, some 0], "application/x-rar-compressed"),
   ([some 0] ++ exact "asm", "application/wasm")]

/-- Whether a byte marks binary data. -/
def isBinaryByte (b : UInt8) : Bool :=
  b ≤ 8 || b = 11 || (14 ≤ b && b ≤ 26) || (28 ≤ b && b ≤ 31)

/-- The content type detected from a body. -/
def detectContentType (body : Bytes) : String :=
  let data := body.take 512
  let markup := data.dropWhile isSniffBlank
  if htmlTags.any (fun t => startsWithTag (encode t) markup) then "text/html; charset=utf-8"
  else if startsWith (exact "<?xml") markup then "text/xml; charset=utf-8"
  else match binarySignatures.find? (fun (p, _) => startsWith p data) with
    | some (_, ct) => ct
    | none => if markup.any isBinaryByte then "application/octet-stream" else "text/plain; charset=utf-8"

example : detectContentType (encode "<?xml version=\"1.0\"?><a/>") = "text/xml; charset=utf-8" := by
  decide +kernel

example : detectContentType [] = "text/plain; charset=utf-8" := by decide

end EInvoice.Net
