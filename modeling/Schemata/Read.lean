import Schemata.Parse.Format
import Schemata.Sql.Front
import Schemata.Rails.Build
import Schemata.Prisma.Lower
import Schemata.Tbls.Convert

/-!
# Reading a schema in any format

The front door of the readers: resolve the format, run its front-end, and
check the references of the result. Only the PostgreSQL reader takes a chunk
size.
-/

namespace Schemata

/-- The number of lines the SQL reader is given at once unless told otherwise. -/
def defaultChunkSize : Nat := 500

/-- Read a schema source in a format. -/
def Format.read (f : Format) (source : String) (chunkSize : Nat) : Reading :=
  let r : Reading := match f.resolve source with
    | .postgres | .auto => Sql.parsePostgres source chunkSize
    | .schemaRb => Rails.parseSchemaRb source
    | .prisma => Prisma.parsePrisma source
    | .tbls => Tbls.parseTbls source
  { r with problems := r.problems ++ validateReferences r.value }

end Schemata
