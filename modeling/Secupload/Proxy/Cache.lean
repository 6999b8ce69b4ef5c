import Secupload.Shared.Messages

namespace Secupload.Proxy

open Library Shared

structure RegistryCache where
  entries : List RegistryEntry

namespace RegistryCache

def update (_ : RegistryCache) (entries : List RegistryEntry) : RegistryCache := ⟨entries⟩

-- the newest entry is the first of the highest version
def newer (identityUuid : Uuid) (best : Option RegistryEntry) (e : RegistryEntry) :
    Option RegistryEntry :=
  if e.identityUuid = identityUuid ∧ ∀ b ∈ best, b.version < e.version then some e else best

def entry (cache : RegistryCache) (identityUuid : Uuid) : Option RegistryEntry :=
  cache.entries.foldl (newer identityUuid) none

end RegistryCache

end Secupload.Proxy
