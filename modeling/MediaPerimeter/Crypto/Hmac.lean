import MediaPerimeter.Crypto.Sha2

/-!
# Keyed hashes

A message is hashed behind a key that fills a block, and the hash once more behind the key in a
second guise. A key longer than a block is hashed first.
-/
namespace MediaPerimeter.Hmac

variable {w : Nat}

def blockKey (v : Sha2 w) (key : Bytes) : Bytes :=
  let short := if Sha2.blockBytes w < key.length then v.hash key else key
  short ++ List.replicate (Sha2.blockBytes w - short.length) 0

def tag (v : Sha2 w) (key message : Bytes) : Bytes :=
  let key := blockKey v key
  v.hash (key.map (· ^^^ 0x5c) ++ v.hash (key.map (· ^^^ 0x36) ++ message))

end MediaPerimeter.Hmac
