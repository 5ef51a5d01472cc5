import Rota.Database.Server

/-!
Addresses of databases: a file of this host behind `sqlite:`, or the URL of a server.
-/

namespace Rota.Database

inductive Address where
  | file (options : FileOptions)
  | server (server : Server)
deriving DecidableEq, Repr

namespace Address

def parse (environment : Environment) (settings : Settings) : Except Fault Address :=
  let found :=
    if settings.usesSqlite then (FileOptions.parse settings.databaseUrl).map file
    else (Server.parse environment settings.databaseUrl).map server
  found.mapError .configuration

def connect (files : Files) : Address → Except Fault Unit
  | file options => files.openFile options
  | server place => .error (place.fault files)

def path? : Address → Option String
  | file options => (Target.ofOptions options).toOption.map Target.path
  | server place => place.socketFolder?

end Address

end Rota.Database
