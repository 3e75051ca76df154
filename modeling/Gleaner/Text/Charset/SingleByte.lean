/-
  Gleaner/Text/Charset/SingleByte.lean
  ====================================
  **Encodings of one byte.**  Each table lists the characters of the bytes from 0x80
  on, in hexadecimal: a code point, a code point and how many more follow it without
  a gap, or after a minus sign the number of bytes without a character.
-/

namespace Gleaner.Text

/-- The tables of the encodings of one byte, by name. -/
def singleByteTables : List (String × List String) :=
  [("cp437",
    ["c7 fc e9 e2 e4 e0 e5 e7 ea+1 e8 ef ee ec c4+1 c9 e6 c6 f4 f6 f2 fb f9 ff d6 dc a2+1 a5",
     "20a7 192 e1 ed f3 fa f1 d1 aa ba bf 2310 ac bd bc a1 ab bb 2591+2 2502 2524 2561+1 2556",
     "2555 2563 2551 2557 255d 255c 255b 2510 2514 2534 252c 251c 2500 253c 255e+1 255a 2554",
     "2569 2566 2560 2550 256c 2567+1 2564+1 2559 2558 2552+1 256b 256a 2518 250c 2588 2584 258c",
     "2590 2580 3b1 df 393 3c0 3a3 3c3 b5 3c4 3a6 398 3a9 3b4 221e 3c6 3b5 2229 2261 b1 2265",
     "2264 2320+1 f7 2248 b0 2219 b7 221a 207f b2 25a0 a0"]),
   ("cp737",
    ["391+10 3a3+6 3b1+10 3c3 3c2 3c4+4 2591+2 2502 2524 2561+1 2556 2555 2563 2551 2557 255d",
     "255c 255b 2510 2514 2534 252c 251c 2500 253c 255e+1 255a 2554 2569 2566 2560 2550 256c",
     "2567+1 2564+1 2559 2558 2552+1 256b 256a 2518 250c 2588 2584 258c 2590 2580 3c9 3ac+2 3ca",
     "3af 3cc+1 3cb 3ce 386 388+2 38c 38e+1 b1 2265 2264 3aa+1 f7 2248 b0 2219 b7 221a 207f b2",
     "25a0 a0"]),
   ("cp775",
    ["106 fc e9 101 e4 123 e5 107 142 113 156+1 12b 179 c4+1 c9 e6 c6 14d f6 122 a2 15a+1 d6 dc",
     "f8 a3 d8 d7 a4 100 12a f3 17b+1 17a 201d a6 a9 ae ac bd bc 141 ab bb 2591+2 2502 2524 104",
     "10c 118 116 2563 2551 2557 255d 12e 160 2510 2514 2534 252c 251c 2500 253c 172 16a 255a",
     "2554 2569 2566 2560 2550 256c 17d 105 10d 119 117 12f 161 173 16b 17e 2518 250c 2588 2584",
     "258c 2590 2580 d3 df 14c 143 f5 d5 b5 144 136+1 13b+1 146 112 145 2019 ad b1 201c be b6 a7",
     "f7 201e b0 2219 b7 b9 b3 b2 25a0 a0"]),
   ("cp850",
    ["c7 fc e9 e2 e4 e0 e5 e7 ea+1 e8 ef ee ec c4+1 c9 e6 c6 f4 f6 f2 fb f9 ff d6 dc f8 a3 d8 d7",
     "192 e1 ed f3 fa f1 d1 aa ba bf ae ac bd bc a1 ab bb 2591+2 2502 2524 c1+1 c0 a9 2563 2551",
     "2557 255d a2 a5 2510 2514 2534 252c 251c 2500 253c e3 c3 255a 2554 2569 2566 2560 2550",
     "256c a4 f0 d0 ca+1 c8 131 cd+2 2518 250c 2588 2584 a6 cc 2580 d3 df d4 d2 f5 d5 b5 fe de",
     "da+1 d9 fd dd af b4 ad b1 2017 be b6 a7 f7 b8 b0 a8 b7 b9 b3 b2 25a0 a0"]),
   ("cp852",
    ["c7 fc e9 e2 e4 16f 107 e7 142 eb 150+1 ee 179 c4 106 c9 139+1 f4 f6 13d+1 15a+1 d6 dc",
     "164+1 141 d7 10d e1 ed f3 fa 104+1 17d+1 118+1 ac 17a 10c 15f ab bb 2591+2 2502 2524 c1+1",
     "11a 15e 2563 2551 2557 255d 17b+1 2510 2514 2534 252c 251c 2500 253c 102+1 255a 2554 2569",
     "2566 2560 2550 256c a4 111 110 10e cb 10f 147 cd+1 11b 2518 250c 2588 2584 162 16e 2580 d3",
     "df d4 143+1 148 160+1 154 da 155 170 fd dd 163 b4 ad 2dd 2db 2c7 2d8 a7 f7 b8 b0 a8 2d9",
     "171 158+1 25a0 a0"]),
   ("cp855",
    ["452 402 453 403 451 401 454 404 455 405 456 406 457 407 458 408 459 409 45a 40a 45b 40b",
     "45c 40c 45e 40e 45f 40f 44e 42e 44a 42a 430 410 431 411 446 426 434 414 435 415 444 424",
     "433 413 ab bb 2591+2 2502 2524 445 425 438 418 2563 2551 2557 255d 439 419 2510 2514 2534",
     "252c 251c 2500 253c 43a 41a 255a 2554 2569 2566 2560 2550 256c a4 43b 41b 43c 41c 43d 41d",
     "43e 41e 43f 2518 250c 2588 2584 41f 44f 2580 42f 440 420 441 421 442 422 443 423 436 416",
     "432 412 44c 42c 2116 ad 44b 42b 437 417 448 428 44d 42d 449 429 447 427 a7 25a0 a0"]),
   ("cp857",
    ["c7 fc e9 e2 e4 e0 e5 e7 ea+1 e8 ef ee 131 c4+1 c9 e6 c6 f4 f6 f2 fb f9 130 d6 dc f8 a3 d8",
     "15e+1 e1 ed f3 fa f1 d1 11e+1 bf ae ac bd bc a1 ab bb 2591+2 2502 2524 c1+1 c0 a9 2563",
     "2551 2557 255d a2 a5 2510 2514 2534 252c 251c 2500 253c e3 c3 255a 2554 2569 2566 2560",
     "2550 256c a4 ba aa ca+1 c8 -1 cd+2 2518 250c 2588 2584 a6 cc 2580 d3 df d4 d2 f5 d5 b5 -1",
     "d7 da+1 d9 ec ff af b4 ad b1 -1 be b6 a7 f7 b8 b0 a8 b7 b9 b3 b2 25a0 a0"]),
   ("cp858",
    ["c7 fc e9 e2 e4 e0 e5 e7 ea+1 e8 ef ee ec c4+1 c9 e6 c6 f4 f6 f2 fb f9 ff d6 dc f8 a3 d8 d7",
     "192 e1 ed f3 fa f1 d1 aa ba bf ae ac bd bc a1 ab bb 2591+2 2502 2524 c1+1 c0 a9 2563 2551",
     "2557 255d a2 a5 2510 2514 2534 252c 251c 2500 253c e3 c3 255a 2554 2569 2566 2560 2550",
     "256c a4 f0 d0 ca+1 c8 20ac cd+2 2518 250c 2588 2584 a6 cc 2580 d3 df d4 d2 f5 d5 b5 fe de",
     "da+1 d9 fd dd af b4 ad b1 2017 be b6 a7 f7 b8 b0 a8 b7 b9 b3 b2 25a0 a0"]),
   ("cp860",
    ["c7 fc e9 e2+1 e0 c1 e7 ea ca e8 cd d4 ec c3 c2 c9 c0 c8 f4+1 f2 da f9 cc d5 dc a2+1 d9",
     "20a7 d3 e1 ed f3 fa f1 d1 aa ba bf d2 ac bd bc a1 ab bb 2591+2 2502 2524 2561+1 2556 2555",
     "2563 2551 2557 255d 255c 255b 2510 2514 2534 252c 251c 2500 253c 255e+1 255a 2554 2569",
     "2566 2560 2550 256c 2567+1 2564+1 2559 2558 2552+1 256b 256a 2518 250c 2588 2584 258c 2590",
     "2580 3b1 df 393 3c0 3a3 3c3 b5 3c4 3a6 398 3a9 3b4 221e 3c6 3b5 2229 2261 b1 2265 2264",
     "2320+1 f7 2248 b0 2219 b7 221a 207f b2 25a0 a0"]),
   ("cp861",
    ["c7 fc e9 e2 e4 e0 e5 e7 ea+1 e8 d0 f0 de c4+1 c9 e6 c6 f4 f6 fe fb dd fd d6 dc f8 a3 d8",
     "20a7 192 e1 ed f3 fa c1 cd d3 da bf 2310 ac bd bc a1 ab bb 2591+2 2502 2524 2561+1 2556",
     "2555 2563 2551 2557 255d 255c 255b 2510 2514 2534 252c 251c 2500 253c 255e+1 255a 2554",
     "2569 2566 2560 2550 256c 2567+1 2564+1 2559 2558 2552+1 256b 256a 2518 250c 2588 2584 258c",
     "2590 2580 3b1 df 393 3c0 3a3 3c3 b5 3c4 3a6 398 3a9 3b4 221e 3c6 3b5 2229 2261 b1 2265",
     "2264 2320+1 f7 2248 b0 2219 b7 221a 207f b2 25a0 a0"]),
   ("cp862",
    ["5d0+1a a2+1 a5 20a7 192 e1 ed f3 fa f1 d1 aa ba bf 2310 ac bd bc a1 ab bb 2591+2 2502 2524",
     "2561+1 2556 2555 2563 2551 2557 255d 255c 255b 2510 2514 2534 252c 251c 2500 253c 255e+1",
     "255a 2554 2569 2566 2560 2550 256c 2567+1 2564+1 2559 2558 2552+1 256b 256a 2518 250c 2588",
     "2584 258c 2590 2580 3b1 df 393 3c0 3a3 3c3 b5 3c4 3a6 398 3a9 3b4 221e 3c6 3b5 2229 2261",
     "b1 2265 2264 2320+1 f7 2248 b0 2219 b7 221a 207f b2 25a0 a0"]),
   ("cp863",
    ["c7 fc e9 e2 c2 e0 b6 e7 ea+1 e8 ef ee 2017 c0 a7 c9 c8 ca f4 cb cf fb f9 a4 d4 dc a2+1 d9",
     "db 192 a6 b4 f3 fa a8 b8 b3 af ce 2310 ac bd bc be ab bb 2591+2 2502 2524 2561+1 2556 2555",
     "2563 2551 2557 255d 255c 255b 2510 2514 2534 252c 251c 2500 253c 255e+1 255a 2554 2569",
     "2566 2560 2550 256c 2567+1 2564+1 2559 2558 2552+1 256b 256a 2518 250c 2588 2584 258c 2590",
     "2580 3b1 df 393 3c0 3a3 3c3 b5 3c4 3a6 398 3a9 3b4 221e 3c6 3b5 2229 2261 b1 2265 2264",
     "2320+1 f7 2248 b0 2219 b7 221a 207f b2 25a0 a0"]),
   ("cp865",
    ["c7 fc e9 e2 e4 e0 e5 e7 ea+1 e8 ef ee ec c4+1 c9 e6 c6 f4 f6 f2 fb f9 ff d6 dc f8 a3 d8",
     "20a7 192 e1 ed f3 fa f1 d1 aa ba bf 2310 ac bd bc a1 ab a4 2591+2 2502 2524 2561+1 2556",
     "2555 2563 2551 2557 255d 255c 255b 2510 2514 2534 252c 251c 2500 253c 255e+1 255a 2554",
     "2569 2566 2560 2550 256c 2567+1 2564+1 2559 2558 2552+1 256b 256a 2518 250c 2588 2584 258c",
     "2590 2580 3b1 df 393 3c0 3a3 3c3 b5 3c4 3a6 398 3a9 3b4 221e 3c6 3b5 2229 2261 b1 2265",
     "2264 2320+1 f7 2248 b0 2219 b7 221a 207f b2 25a0 a0"]),
   ("cp866",
    ["410+2f 2591+2 2502 2524 2561+1 2556 2555 2563 2551 2557 255d 255c 255b 2510 2514 2534 252c",
     "251c 2500 253c 255e+1 255a 2554 2569 2566 2560 2550 256c 2567+1 2564+1 2559 2558 2552+1",
     "256b 256a 2518 250c 2588 2584 258c 2590 2580 440+f 401 451 404 454 407 457 40e 45e b0 2219",
     "b7 221a 2116 a4 25a0 a0"]),
   ("cp869",
    ["-6 386 -1 b7 ac a6 2018+1 388 2015 389+1 3aa 38c -2 38e 3ab a9 38f b2+1 3ac a3 3ad+2 3ca",
     "390 3cc+1 391+6 bd 398+1 ab bb 2591+2 2502 2524 39a+3 2563 2551 2557 255d 39e+1 2510 2514",
     "2534 252c 251c 2500 253c 3a0+1 255a 2554 2569 2566 2560 2550 256c 3a3+6 3b1+2 2518 250c",
     "2588 2584 3b4+1 2580 3b6+b 3c3 3c2 3c4 384 ad b1 3c5+2 a7 3c8 385 b0 a8 3c9 3cb 3b0 3ce",
     "25a0 a0"]),
   ("cp874",
    ["20ac -4 2026 -b 2018+1 201c+1 2022 2013+1 -8 a0 e01+39 -4 e3f+1c -4"]),
   ("cp1250",
    ["20ac -1 201a -1 201e 2026 2020+1 -1 2030 160 2039 15a 164 17d 179 -1 2018+1 201c+1 2022",
     "2013+1 -1 2122 161 203a 15b 165 17e 17a a0 2c7 2d8 141 a4 104 a6+3 15e ab+3 17b b0+1 2db",
     "142 b4+4 105 15f bb 13d 2dd 13e 17c 154 c1+1 102 c4 139 106 c7 10c c9 118 cb 11a cd+1 10e",
     "110 143 147 d3+1 150 d6+1 158 16e da 170 dc+1 162 df 155 e1+1 103 e4 13a 107 e7 10d e9 119",
     "eb 11b ed+1 10f 111 144 148 f3+1 151 f6+1 159 16f fa 171 fc+1 163 2d9"]),
   ("cp1251",
    ["402+1 201a 453 201e 2026 2020+1 20ac 2030 409 2039 40a 40c 40b 40f 452 2018+1 201c+1 2022",
     "2013+1 -1 2122 459 203a 45a 45c 45b 45f a0 40e 45e 408 a4 490 a6+1 401 a9 404 ab+3 407",
     "b0+1 406 456 491 b5+2 451 2116 454 bb 458 405 455 457 410+3f"]),
   ("cp1252",
    ["20ac -1 201a 192 201e 2026 2020+1 2c6 2030 160 2039 152 -1 17d -2 2018+1 201c+1 2022",
     "2013+1 2dc 2122 161 203a 153 -1 17e 178 a0+5f"]),
   ("cp1253",
    ["20ac -1 201a 192 201e 2026 2020+1 -1 2030 -1 2039 -5 2018+1 201c+1 2022 2013+1 -1 2122 -1",
     "203a -4 a0 385+1 a3+6 -1 ab+3 2015 b0+3 384 b5+2 388+2 bb 38c bd 38e+13 -1 3a3+2b -1"]),
   ("cp1254",
    ["20ac -1 201a 192 201e 2026 2020+1 2c6 2030 160 2039 152 -4 2018+1 201c+1 2022 2013+1 2dc",
     "2122 161 203a 153 -2 178 a0+2f 11e d1+b 130 15e df+10 11f f1+b 131 15f ff"]),
   ("cp1255",
    ["20ac -1 201a 192 201e 2026 2020+1 2c6 2030 -1 2039 -5 2018+1 201c+1 2022 2013+1 2dc 2122",
     "-1 203a -4 a0+3 20aa a5+4 d7 ab+e f7 bb+4 5b0+9 -1 5bb+8 5f0+4 -7 5d0+1a -2 200e+1 -1"]),
   ("cp1256",
    ["20ac 67e 201a 192 201e 2026 2020+1 2c6 2030 679 2039 152 686 698 688 6af 2018+1 201c+1",
     "2022 2013+1 6a9 2122 691 203a 153 200c+1 6ba a0 60c a2+7 6be ab+e 61b bb+3 61f 6c1 621+15",
     "d7 637+3 640+3 e0 644 e2 645+3 e7+4 649+1 ee+1 64b+3 f4 64f+1 f7 651 f9 652 fb+1 200e+1",
     "6d2"]),
   ("cp1257",
    ["20ac -1 201a -1 201e 2026 2020+1 -1 2030 -1 2039 -1 a8 2c7 b8 -1 2018+1 201c+1 2022 2013+1",
     "-1 2122 -1 203a -1 af 2db -1 a0 -1 a2+2 -1 a6+1 d8 a9 156 ab+3 c6 b0+7 f8 b9 157 bb+3 e6",
     "104 12e 100 106 c4+1 118 112 10c c9 179 116 122 136 12a 13b 160 143 145 d3 14c d5+2 172",
     "141 15a 16a dc 17b 17d df 105 12f 101 107 e4+1 119 113 10d e9 17a 117 123 137 12b 13c 161",
     "144 146 f3 14d f5+2 173 142 15b 16b fc 17c 17e 2d9"]),
   ("cp1258",
    ["20ac -1 201a 192 201e 2026 2020+1 2c6 2030 -1 2039 152 -4 2018+1 201c+1 2022 2013+1 2dc",
     "2122 -1 203a 153 -2 178 a0+22 102 c4+7 300 cd+2 110 d1 309 d3+1 1a0 d6+6 1af 303 df+3 103",
     "e4+7 301 ed+2 111 f1 323 f3+1 1a1 f6+6 1b0 20ab ff"]),
   ("iso8859_2",
    ["80+20 104 2d8 141 a4 13d 15a a7+1 160 15e 164 179 ad 17d 17b b0 105 2db 142 b4 13e 15b 2c7",
     "b8 161 15f 165 17a 2dd 17e 17c 154 c1+1 102 c4 139 106 c7 10c c9 118 cb 11a cd+1 10e 110",
     "143 147 d3+1 150 d6+1 158 16e da 170 dc+1 162 df 155 e1+1 103 e4 13a 107 e7 10d e9 119 eb",
     "11b ed+1 10f 111 144 148 f3+1 151 f6+1 159 16f fa 171 fc+1 163 2d9"]),
   ("iso8859_3",
    ["80+20 126 2d8 a3+1 -1 124 a7+1 130 15e 11e 134 ad -1 17b b0 127 b2+3 125 b7+1 131 15f 11f",
     "135 bd -1 17c c0+2 -1 c4 10a 108 c7+8 -1 d1+3 120 d6+1 11c d9+3 16c 15c df+3 -1 e4 10b 109",
     "e7+8 -1 f1+3 121 f6+1 11d f9+3 16d 15d 2d9"]),
   ("iso8859_4",
    ["80+20 104 138 156 a4 128 13b a7+1 160 112 122 166 ad 17d af+1 105 2db 157 b4 129 13c 2c7",
     "b8 161 113 123 167 14a 17e 14b 100 c1+5 12e 10c c9 118 cb 116 cd+1 12a 110 145 14c 136",
     "d4+4 172 da+2 168 16a df 101 e1+5 12f 10d e9 119 eb 117 ed+1 12b 111 146 14d 137 f4+4 173",
     "fa+2 169 16b 2d9"]),
   ("iso8859_5",
    ["80+20 401+b ad 40e+41 2116 451+b a7 45e+1"]),
   ("iso8859_6",
    ["80+20 -3 a4 -7 60c ad -d 61b -3 61f -1 621+19 -5 640+12 -d"]),
   ("iso8859_7",
    ["80+20 2018+1 a3 20ac 20af a6+3 37a ab+2 -1 2015 b0+3 384+2 b7 388+2 bb 38c bd 38e+13 -1",
     "3a3+2b -1"]),
   ("iso8859_8",
    ["80+20 -1 a2+7 d7 ab+e f7 bb+3 -20 2017 5d0+1a -2 200e+1 -1"]),
   ("iso8859_9",
    ["80+4f 11e d1+b 130 15e df+10 11f f1+b 131 15f ff"]),
   ("iso8859_10",
    ["80+20 104 112 122 12a 128 136 a7 13b 110 160 166 17d ad 16a 14a b0 105 113 123 12b 129 137",
     "b7 13c 111 161 167 17e 2015 16b 14b 100 c1+5 12e 10c c9 118 cb 116 cd+3 145 14c d3+3 168",
     "d8 172 da+5 101 e1+5 12f 10d e9 119 eb 117 ed+3 146 14d f3+3 169 f8 173 fa+4 138"]),
   ("iso8859_11",
    ["80+20 e01+39 -4 e3f+1c -4"]),
   ("iso8859_13",
    ["80+20 201d a2+2 201e a6+1 d8 a9 156 ab+3 c6 b0+3 201c b5+2 f8 b9 157 bb+3 e6 104 12e 100",
     "106 c4+1 118 112 10c c9 179 116 122 136 12a 13b 160 143 145 d3 14c d5+2 172 141 15a 16a dc",
     "17b 17d df 105 12f 101 107 e4+1 119 113 10d e9 17a 117 123 137 12b 13c 161 144 146 f3 14d",
     "f5+2 173 142 15b 16b fc 17c 17e 2019"]),
   ("iso8859_14",
    ["80+20 1e02+1 a3 10a+1 1e0a a7 1e80 a9 1e82 1e0b 1ef2 ad+1 178 1e1e+1 120+1 1e40+1 b6 1e56",
     "1e81 1e57 1e83 1e60 1ef3 1e84+1 1e61 c0+f 174 d1+5 1e6a d8+5 176 df+10 175 f1+5 1e6b f8+5",
     "177 ff"]),
   ("iso8859_15",
    ["80+23 20ac a5 160 a7 161 a9+a 17d b5+2 17e b9+2 152+1 178 bf+40"]),
   ("iso8859_16",
    ["80+20 104+1 141 20ac 201e 160 a7 161 a9 218 ab 179 ad 17a+1 b0+1 10c 142 17d 201d b6+1 17e",
     "10d 219 bb 152+1 178 17c c0+2 102 c4 106 c6+9 110 143 d2+2 150 d6 15a 170 d9+3 118 21a",
     "df+3 103 e4 107 e6+9 111 144 f2+2 151 f6 15b 171 f9+3 119 21b ff"]),
   ("koi8_r",
    ["2500 2502 250c 2510 2514 2518 251c 2524 252c 2534 253c 2580 2584 2588 258c 2590+3 2320",
     "25a0 2219+1 2248 2264+1 a0 2321 b0 b2 b7 f7 2550+2 451 2553+e 401 2562+a a9 44e 430+1 446",
     "434+1 444 433 445 438+7 44f 440+3 436 432 44c 44b 437 448 44d 449 447 44a 42e 410+1 426",
     "414+1 424 413 425 418+7 42f 420+3 416 412 42c 42b 417 428 42d 429 427 42a"]),
   ("koi8_u",
    ["2500 2502 250c 2510 2514 2518 251c 2524 252c 2534 253c 2580 2584 2588 258c 2590+3 2320",
     "25a0 2219+1 2248 2264+1 a0 2321 b0 b2 b7 f7 2550+2 451 454 2554 456+1 2557+4 491 255d+4",
     "401 404 2563 406+1 2566+4 490 256c a9 44e 430+1 446 434+1 444 433 445 438+7 44f 440+3 436",
     "432 44c 44b 437 448 44d 449 447 44a 42e 410+1 426 414+1 424 413 425 418+7 42f 420+3 416",
     "412 42c 42b 417 428 42d 429 427 42a"]),
   ("mac_roman",
    ["c4+1 c7 c9 d1 d6 dc e1 e0 e2 e4 e3 e5 e7 e9 e8 ea+1 ed ec ee+1 f1 f3 f2 f4 f6 f5 fa f9",
     "fb+1 2020 b0 a2+1 a7 2022 b6 df ae a9 2122 b4 a8 2260 c6 d8 221e b1 2264+1 a5 b5 2202 2211",
     "220f 3c0 222b aa ba 3a9 e6 f8 bf a1 ac 221a 192 2248 2206 ab bb 2026 a0 c0 c3 d5 152+1",
     "2013+1 201c+1 2018+1 f7 25ca ff 178 2044 20ac 2039+1 fb01+1 2021 b7 201a 201e 2030 c2 ca",
     "c1 cb c8 cd+2 cc d3+1 f8ff d2 da+1 d9 131 2c6 2dc af 2d8+2 b8 2dd 2db 2c7"]),
   ("mac_cyrillic",
    ["410+1f 2020 b0 490 a3 a7 2022 b6 406 ae a9 2122 402 452 2260 403 453 221e b1 2264+1 456 b5",
     "491 408 404 454 407 457 409 459 40a 45a 458 405 ac 221a 192 2248 2206 ab bb 2026 a0 40b",
     "45b 40c 45c 455 2013+1 201c+1 2018+1 f7 201e 40e 45e 40f 45f 2116 401 451 44f 430+1e 20ac"]),
   ("mac_greek",
    ["c4 b9 b2 c9 b3 d6 dc 385 e0 e2 e4 384 a8 e7 e9 e8 ea+1 a3 2122 ee+1 2022 bd 2030 f4 f6 a6",
     "20ac f9 fb+1 2020 393+1 398 39b 39e 3a0 df ae a9 3a3 3aa a7 2260 b0 b7 391 b1 2264+1 a5",
     "392 395+2 399+1 39c 3a6 3ab 3a8+1 3ac 39d ac 39f 3a1 2248 3a4 ab bb 2026 a0 3a5 3a7 386",
     "388 153 2013 2015 201c+1 2018+1 f7 389+1 38c 38e 3ad+2 3cc 38f 3cd 3b1+1 3c8 3b4+1 3c6 3b3",
     "3b7 3b9 3be 3ba+3 3bf+1 3ce 3c1 3c3+1 3b8 3c9 3c2 3c7 3c5 3b6 3ca+1 390 3b0 ad"]),
   ("mac_latin2",
    ["c4 100+1 c9 104 d6 dc e1 105 10c e4 10d 106+1 e9 179+1 10e ed 10f 112+1 116 f3 117 f4 f6",
     "f5 fa 11a+1 fc 2020 b0 118 a3 a7 2022 b6 df ae a9 2122 119 a8 2260 123 12e+1 12a 2264+1",
     "12b 136 2202 2211 142 13b+3 139+1 145+1 143 ac 221a 144 147 2206 ab bb 2026 a0 148 150 d5",
     "151 14c 2013+1 201c+1 2018+1 f7 25ca 14d 154+1 158 2039+1 159 156+1 160 201a 201e 161",
     "15a+1 c1 164+1 cd 17d+1 16a d3+1 16b 16e da 16f+4 dd fd 137 17b 141 17c 122 2c7"]),
   ("mac_turkish",
    ["c4+1 c7 c9 d1 d6 dc e1 e0 e2 e4 e3 e5 e7 e9 e8 ea+1 ed ec ee+1 f1 f3 f2 f4 f6 f5 fa f9",
     "fb+1 2020 b0 a2+1 a7 2022 b6 df ae a9 2122 b4 a8 2260 c6 d8 221e b1 2264+1 a5 b5 2202 2211",
     "220f 3c0 222b aa ba 3a9 e6 f8 bf a1 ac 221a 192 2248 2206 ab bb 2026 a0 c0 c3 d5 152+1",
     "2013+1 201c+1 2018+1 f7 25ca ff 178 11e+1 130+1 15e+1 2021 b7 201a 201e 2030 c2 ca c1 cb",
     "c8 cd+2 cc d3+1 f8ff d2 da+1 d9 f8a0 2c6 2dc af 2d8+2 b8 2dd 2db 2c7"]),
   ("mac_iceland",
    ["c4+1 c7 c9 d1 d6 dc e1 e0 e2 e4 e3 e5 e7 e9 e8 ea+1 ed ec ee+1 f1 f3 f2 f4 f6 f5 fa f9",
     "fb+1 dd b0 a2+1 a7 2022 b6 df ae a9 2122 b4 a8 2260 c6 d8 221e b1 2264+1 a5 b5 2202 2211",
     "220f 3c0 222b aa ba 3a9 e6 f8 bf a1 ac 221a 192 2248 2206 ab bb 2026 a0 c0 c3 d5 152+1",
     "2013+1 201c+1 2018+1 f7 25ca ff 178 2044 20ac d0 f0 de fe fd b7 201a 201e 2030 c2 ca c1 cb",
     "c8 cd+2 cc d3+1 f8ff d2 da+1 d9 131 2c6 2dc af 2d8+2 b8 2dd 2db 2c7"]),
   ("tis_620",
    ["80+1f -1 e01+39 -4 e3f+1c -4"]),
   ("hp_roman8",
    ["80+20 c0 c2 c8 ca+1 ce+1 b4 2cb 2c6 a8 2dc d9 db 20a4 af dd fd b0 c7 e7 d1 f1 a1 bf a4 a3",
     "a5 a7 192 a2 e2 ea f4 fb e1 e9 f3 fa e0 e8 f2 f9 e4 eb f6 fc c5 ee d8 c6 e5 ed f8 e6 c4 ec",
     "d6 dc c9 ef df d4 c1 c3 e3 d0 f0 cd cc d3 d2 d5 f5 160+1 da 178 ff de fe b7 b5+1 be 2014",
     "bc+1 aa ba ab 25a0 bb b1 -1"]),
   ("kz1048",
    ["402+1 201a 453 201e 2026 2020+1 20ac 2030 409 2039 40a 49a 4ba 40f 452 2018+1 201c+1 2022",
     "2013+1 -1 2122 459 203a 45a 49b 4bb 45f a0 4b0+1 4d8 a4 4e8 a6+1 401 a9 492 ab+3 4ae b0+1",
     "406 456 4e9 b5+2 451 2116 493 bb 4d9 4a2+1 4af 410+3f"]),
   ("ptcp154",
    ["496 492 4ee 493 201e 2026 4b6 4ae 4b2 4af 4a0 4e2 4a2 49a 4ba 4b8 497 2018+1 201c+1 2022",
     "2013+1 4b3 4b7 4a1 4e3 4a3 49b 4bb 4b9 a0 40e 45e 408 4e8 498 4b0 a7 401 a9 4d8 ab+1 4ef",
     "ae 49c b0 4b1 406 456 499 4e9 b6+1 451 2116 4d9 bb 458 4aa+1 49d 410+3f"])]

end Gleaner.Text
