import IsolatedSite.Status

namespace IsolatedSite

inductive HeadFault where
  | method
  | target
  | targetTooLong
  | version
  | otherProtocol
  | field
  | contentLength
  | transferEncoding
  | unexpectedTransferEncoding
  | tooLarge
  deriving DecidableEq, Repr

namespace HeadFault

def name : HeadFault → String
  | .method => "Method"
  | .target => "Uri"
  | .targetTooLong => "UriTooLong"
  | .version => "Version"
  | .otherProtocol => "VersionH2"
  | .field => "Header(Token)"
  | .contentLength => "Header(ContentLengthInvalid)"
  | .transferEncoding => "Header(TransferEncodingInvalid)"
  | .unexpectedTransferEncoding => "Header(TransferEncodingUnexpected)"
  | .tooLarge => "TooLarge"

/-- A client that speaks another protocol would not understand an answer and gets none. -/
def status? : HeadFault → Option Status
  | .targetTooLong => some .uriTooLong
  | .tooLarge => some .headerFieldsTooLarge
  | .otherProtocol => none
  | _ => some .badRequest

end HeadFault

end IsolatedSite
