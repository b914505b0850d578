import TransportSeams.Digest.Sha256
import TransportSeams.Text.Hexadecimal

/-!
The identity of a recording session, usually the path of its recording. Its fingerprint is safe in
the name of a type, whatever characters the identity holds.
-/

set_option autoImplicit false
set_option relaxedAutoImplicit false

namespace TransportSeams

structure SessionId where
  text : String
deriving DecidableEq, Repr

namespace SessionId

/-- The first eight bytes of the digest of the identity, in hexadecimal. -/
def fingerprint (session : SessionId) : String :=
  Text.hexBytes ((Digest.Sha256.digest session.text.toUTF8.data.toList).take 8)

end SessionId

end TransportSeams
