import Workflow.Text.Base64
import Workflow.Text.Blank
import Workflow.Text.Utf8

/-!
# Framed keys

Keys that come in pairs, and certificates of them, are written as texts with marks of their own:
lines that frame a block of base64, or the name of a format in front.
-/

namespace Workflow.Token.Key

/-- The kinds of content that are framed in lines with their names. -/
def framedKinds : List String :=
  ["CERTIFICATE", "TRUSTED CERTIFICATE", "PRIVATE KEY", "PUBLIC KEY", "ENCRYPTED PRIVATE KEY",
    "OPENSSH PRIVATE KEY", "DSA PRIVATE KEY", "RSA PRIVATE KEY", "RSA PUBLIC KEY",
    "EC PRIVATE KEY", "DH PARAMETERS", "NEW CERTIFICATE REQUEST", "CERTIFICATE REQUEST",
    "SSH2 PUBLIC KEY", "SSH2 ENCRYPTED PRIVATE KEY", "X509 CRL"]

/-- The names of key formats that mark a key wherever they occur. -/
def formatNames : List String :=
  ["ssh-ed25519", "ssh-rsa", "ssh-dss", "ecdsa-sha2-nistp256", "ecdsa-sha2-nistp384",
    "ecdsa-sha2-nistp521"]

/-- What the name of a signed key's format ends with. -/
def certificateEnd : String := "-cert-v01@openssh.com"

/-- Whether one text occurs in another. -/
def occursIn (part : List Char) : List Char → Bool
  | [] => part.isEmpty
  | c :: rest => part.isPrefixOf (c :: rest) || occursIn part rest

/-- Whether a text begins with the line that opens a frame; a blank may stand for the hyphens next
to the words. -/
def beginsFrame (chars : List Char) : Bool :=
  [('-', '-'), ('-', ' '), (' ', '-'), (' ', ' ')].any fun (before, after) =>
    framedKinds.any fun kind =>
      (("----".toList ++ before :: "BEGIN ".toList) ++ kind.toList ++
        after :: "----".toList).isPrefixOf chars

/-- Whether a text opens a frame anywhere. -/
def hasFrame : List Char → Bool
  | [] => false
  | c :: rest => beginsFrame (c :: rest) || hasFrame rest

/-- The ASCII blanks. -/
def isAsciiBlank (c : Char) : Bool := c = ' ' || ('\t' ≤ c && c ≤ '\r')

/-- Whether a text begins with the name of a signed key's format and goes on in the same line. -/
def isCertificate (chars : List Char) : Bool :=
  let name := chars.takeWhile (!isAsciiBlank ·)
  let rest := chars.dropWhile (!isAsciiBlank ·)
  let content := rest.dropWhile fun c => c = ' ' || c = '\t'
  certificateEnd.toList.isSuffixOf name && content.length < rest.length &&
    (content.head?.map (!isAsciiBlank ·)).getD false

/-- Whether a text is a key of a pair, or a certificate of one. -/
def isPaired (chars : List Char) : Bool :=
  hasFrame chars || formatNames.any (fun name => occursIn name.toList chars) ||
    isCertificate chars

/-- The lines of a text, without the blanks around them. -/
def lines (text : String) : List (List Char) :=
  let rec cut (line : List Char) : List Char → List (List Char)
    | [] => [line.reverse]
    | c :: rest => if c = '\n' then line.reverse :: cut [] rest else cut (c :: line) rest
  (cut [] text.toList).map (Text.trimChars isAsciiBlank)

/-- The bytes framed in a text: what stands in its lines, those of the frame apart. -/
def framedBytes (text : String) : Except Text.Base64.Problem (List UInt8) :=
  let content := (lines text).filter fun line => !"-----".toList.isPrefixOf line
  Text.Base64.decodeOrdinary (Text.Utf8.encode (String.ofList content.flatten))

end Workflow.Token.Key
